import PasswordManager.Server.Plain

/-!
# Two users of one server

A second user joins the device of the example and stores a password of its own, and then the first
user fills another group.
-/

namespace PasswordManager
open Interaction

def neighbourIp : String := "192.0.2.8"

def neighbourHeaders : HeaderMap := [("device-token", asBytes (numbered 9068).toString)]

/-- The uuid of the neighbour's password. -/
def neighbourPassword : Uuid := numbered 12128

/-- A password of thirty days, unless another number is given. -/
def storeRequest (headers : HeaderMap) (ip : String) (group : Uuid) (days : Option Int) : Request :=
  .pwdCreate headers ip ⟨hidden (asBytes "correct horse"), group.toString, none, none, days⟩

/-- The neighbour enrolls, is approved and stores a password. -/
def neighbourMoves : List (Move Request Choice) :=
  alone 8 8 (.greet neighbourIp ⟨Hex.encode (addBytes zeroKey x25519Basepoint).val⟩) ++
    alone 9 6 (.signUp neighbourIp ⟨hidden (asBytes "bob"), hidden (asBytes "other")⟩) ++
    alone 10 6 (.adminApprove adminHeaders localhost (numbered 8064)) ++
    alone 11 9 (.groupCreate neighbourHeaders neighbourIp ⟨"home", none⟩) ++
    alone 12 14 (storeRequest neighbourHeaders neighbourIp (numbered 11096) none)

/-- The device of the example makes a second group, fills it, and moves its first password there. -/
def shelfMoves : List (Move Request Choice) :=
  alone 13 9 (.groupCreate deviceHeaders deviceIp ⟨"work", none⟩) ++
    alone 14 14 (storeRequest deviceHeaders deviceIp (numbered 13096) (some 1)) ++
    alone 15 14 (storeRequest deviceHeaders deviceIp (numbered 4096) none) ++
    alone 16 14 (storeRequest deviceHeaders deviceIp (numbered 13096) none) ++
    alone 17 14 (.pwdUpdate deviceHeaders deviceIp (numbered 5128)
      ⟨hidden (asBytes "hunter3"), (numbered 13096).toString, none, none⟩)

def neighbourRun : ServerState :=
  letI := plainCrypto
  letI := plainArchive
  (server plainConfig).play neighbourMoves deviceRun

def shelfRun : ServerState :=
  letI := plainCrypto
  letI := plainArchive
  (server plainConfig).play shelfMoves neighbourRun

theorem neighbourRun_later :
    letI := plainCrypto
    letI := plainArchive
    (server plainConfig).Steps deviceRun neighbourRun :=
  Machine.play_steps neighbourMoves _

theorem shelfRun_later :
    letI := plainCrypto
    letI := plainArchive
    (server plainConfig).Steps neighbourRun shelfRun :=
  Machine.play_steps shelfMoves _

theorem shelfRun_reachable :
    letI := plainCrypto
    letI := plainArchive
    (server plainConfig).Reachable shelfRun :=
  letI := plainCrypto
  letI := plainArchive
  (Machine.Steps.trans deviceRun_reachable neighbourRun_later).trans shelfRun_later

end PasswordManager
