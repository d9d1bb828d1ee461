import PasswordManager.Interaction.Machine

/-!
# Schedules

A schedule computes one run of a machine: it says what moves next and what the environment chooses.
Whatever the schedule, the state it leads to is reachable.
-/

namespace PasswordManager.Interaction

variable {Act : Type} {Ans : Act → Type} {Req Res σ ι : Type}

inductive Move (Req ι : Type) where
  | start (rid : Nat) (req : Req)
  | step (rid : Nat) (choice : ι)
  | background (choice : ι)

def Move.rid : Move Req ι → Option Nat
  | .start rid _ | .step rid _ => some rid
  | .background _ => none

/-- A request that starts and then makes its steps without interruption. -/
def Move.alone (rid : Nat) (req : Req) (choices : List ι) : List (Move Req ι) :=
  .start rid req :: choices.map (.step rid)

theorem alone_own (rid : Nat) (req : Req) (choices : List ι) :
    ∀ m ∈ Move.alone rid req choices, m.rid = some rid := by
  intro m member
  rcases List.mem_cons.mp member with rfl | member
  · rfl
  · obtain ⟨choice, -, rfl⟩ := List.mem_map.mp member
    rfl

namespace Machine

variable (M : Machine Ans Req Res σ ι)

/-- A move that is not possible is skipped. -/
def move (c : RunState Ans Req Res σ) : Move Req ι → RunState Ans Req Res σ
  | .start rid req =>
    if ∀ e ∈ c.trace, e.rid ≠ rid then
      { c with
        procs := Function.update c.procs rid (some (req, M.handler req))
        trace := .start rid req :: c.trace }
    else c
  | .step rid choice =>
    match c.procs rid with
    | some (req, .act x k) =>
      if M.ready choice rid c.world x then {
        world := (M.answer choice rid c.world x).2
        procs := Function.update c.procs rid (some (req, k (M.answer choice rid c.world x).1))
        trace := M.event rid req choice c.world x :: c.trace }
      else c
    | some (req, .done v) => { c with
        procs := Function.update c.procs rid none
        trace := .reply rid req v :: c.trace }
    | none => c
  | .background choice =>
    match M.background choice c.world with
    | some w => { c with world := w }
    | none => c

def play : List (Move Req ι) → RunState Ans Req Res σ → RunState Ans Req Res σ
  | [], c => c
  | m :: moves, c => play moves (M.move c m)

variable {M}

theorem move_steps (c : RunState Ans Req Res σ) (m : Move Req ι) : M.Steps c (M.move c m) := by
  unfold move
  split
  · split
    · exact .tail .refl (.start _ _ ‹_›)
    · exact .refl
  · split
    · split
      · exact .tail .refl (.act _ ‹_› ‹_›)
      · exact .refl
    · exact .tail .refl (.reply ‹_›)
    · exact .refl
  · split
    · exact .tail .refl (.background _ ‹_›)
    · exact .refl

theorem play_steps (moves : List (Move Req ι)) (c : RunState Ans Req Res σ) :
    M.Steps c (M.play moves c) := by
  induction moves generalizing c with
  | nil => exact .refl
  | cons m moves ih => exact (move_steps c m).trans (ih _)

theorem play_reachable (moves : List (Move Req ι)) (w : σ) :
    M.Reachable w (M.play moves { world := w }) :=
  play_steps moves _

/-- The moves of one program add only its own events. -/
theorem play_own {rid : Nat} (moves : List (Move Req ι)) (own : ∀ m ∈ moves, m.rid = some rid)
    (c : RunState Ans Req Res σ) :
    ∃ events, (M.play moves c).trace = events ++ c.trace ∧ ∀ e ∈ events, e.rid = rid := by
  induction moves generalizing c with
  | nil => exact ⟨[], rfl, List.forall_mem_nil _⟩
  | cons m moves ih =>
    obtain ⟨events, split, mine⟩ := ih (fun m' member => own m' (List.mem_cons_of_mem _ member)) (M.move c m)
    have same : m.rid = some rid := own m List.mem_cons_self
    have one : (M.move c m).trace = c.trace ∨ ∃ e, (M.move c m).trace = e :: c.trace ∧ e.rid = rid := by
      cases m with
      | start r req =>
        simp only [move]
        split
        · exact .inr ⟨_, rfl, Option.some.inj same⟩
        · exact .inl rfl
      | step r choice =>
        simp only [move]
        split
        · split
          · exact .inr ⟨_, rfl, Option.some.inj same⟩
          · exact .inl rfl
        · exact .inr ⟨_, rfl, Option.some.inj same⟩
        · exact .inl rfl
      | background choice => cases same
    rcases one with kept | ⟨e, added, here⟩
    · exact ⟨events, by rw [play, split, kept], mine⟩
    · refine ⟨events ++ [e], by rw [play, split, added, List.append_cons], ?_⟩
      exact List.forall_mem_append.mpr ⟨mine, List.forall_mem_singleton.mpr here⟩

end Machine

abbrev System.play (S : System Ans Req Res σ ι) :
    List (Move Req ι) → RunState Ans Req Res σ → RunState Ans Req Res σ :=
  S.machine.play

/-! ## Serial runs -/

/-- Each event of a program comes right after an event of the same program, the first of which is
its start: no program interrupts another. -/
def Trace.serial : Trace Ans Req Res σ → Bool
  | [] => true
  | .start _ _ :: rest => Trace.serial rest
  | e :: rest => rest.head?.any (fun before => before.rid == e.rid) && Trace.serial rest

theorem serial_cons {e before : Event Ans Req Res σ} {rest : Trace Ans Req Res σ}
    (later : ∀ rid req, e ≠ .start rid req) (alone : Trace.serial (e :: before :: rest)) :
    before.rid = e.rid ∧ Trace.serial (before :: rest) := by
  cases e with
  | start rid req => exact absurd rfl (later rid req)
  | act =>
    obtain ⟨same, alone⟩ := Bool.and_eq_true_iff.mp alone
    exact ⟨eq_of_beq same, alone⟩
  | reply =>
    obtain ⟨same, alone⟩ := Bool.and_eq_true_iff.mp alone
    exact ⟨eq_of_beq same, alone⟩

theorem serial_suffix {newer older : Trace Ans Req Res σ} (alone : Trace.serial (newer ++ older)) :
    Trace.serial older := by
  induction newer with
  | nil => exact alone
  | cons e newer ih =>
    cases e with
    | start => exact ih alone
    | act => exact ih (Bool.and_eq_true_iff.mp alone).2
    | reply => exact ih (Bool.and_eq_true_iff.mp alone).2

/-- In a serial run a program is not interrupted between two of its events. -/
theorem serial_between {middle older : Trace Ans Req Res σ} {a b : Event Ans Req Res σ}
    (begun : ∀ rid req, a ≠ .start rid req) (same : ∀ req, .start a.rid req ∉ middle)
    (alone : Trace.serial (a :: (middle ++ b :: older))) : ∀ e ∈ middle, e.rid = a.rid := by
  induction middle generalizing a with
  | nil => exact List.forall_mem_nil _
  | cons e middle ih =>
    obtain ⟨here, alone⟩ := serial_cons begun alone
    have begun' : ∀ rid req, e ≠ .start rid req := by
      rintro rid req rfl
      obtain rfl : rid = a.rid := here
      exact same req List.mem_cons_self
    have rest := ih begun' (fun req member => same req (List.mem_cons_of_mem _ (here ▸ member))) alone
    intro e' member
    rcases List.mem_cons.mp member with rfl | member
    · exact here
    · exact (rest e' member).trans here

end PasswordManager.Interaction
