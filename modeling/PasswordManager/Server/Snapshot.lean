import PasswordManager.Server.Importer
import PasswordManager.Server.Plain

/-!
# Exports among commits

An export reads the database file piece by piece while commits write their pages into it. What it
archives is a state of the database as long as no commit writes both before and behind its position.
-/

namespace PasswordManager
open Interaction

variable {pageSize : Nat}

/-! ## The database file -/

structure PageWrite (pageSize : Nat) where
  page : Nat
  content : BytesN pageSize

/-- The file with the page written; a page beyond its end extends it. -/
def PageWrite.perform (w : PageWrite pageSize) (file : Bytes) : Bytes :=
  let start := w.page * pageSize
  file.take start ++ List.replicate (start - file.length) 0 ++ w.content.val ++ file.drop (start + pageSize)

/-- How far a handler has come with the file. -/
inductive Reader where
  | waiting
  | reading (got : Bytes)
  | finished

/-- What has been read of the file, until the end of the reading. -/
def Reader.got : Reader → Option Bytes
  | waiting => some []
  | reading got => some got
  | finished => none

/-- A page that a commit has written, with the number of states committed before and with how far
everybody had come. -/
structure Written where
  page : Nat
  commits : Nat
  readers : Nat → Reader

/-- The database file in rollback-journal mode. -/
structure Disk (pageSize : Nat) where
  content : Bytes
  /-- The pages that the commit under way has still to write. -/
  committing : Option (List (PageWrite pageSize)) := none
  /-- The file as each commit has left it, oldest first. -/
  committed : List Bytes
  readers : Nat → Reader := fun _ => .waiting
  written : List Written := []

/-- What happens to the file between the actions of the handlers. -/
inductive DiskMove (pageSize : Nat) where
  | begin (pages : List (PageWrite pageSize))
  | writePage
  | commit
  | read (rid n : Nat)

namespace Disk

/-- The handler has come as far as this. -/
def advance (d : Disk pageSize) (rid : Nat) (reader : Reader) : Disk pageSize :=
  { d with readers := Function.update d.readers rid reader }

/-- The file lock admits one commit at a time, and `read_to_end` one read after the other until a
read returns nothing. -/
def step (d : Disk pageSize) : DiskMove pageSize → Option (Disk pageSize)
  | .begin pages =>
    match d.committing with
    | none => some { d with committing := some pages }
    | some _ => none
  | .writePage =>
    match d.committing with
    | some (w :: rest) => some { d with
        content := w.perform d.content
        committing := some rest
        written := ⟨w.page, d.committed.length, d.readers⟩ :: d.written }
    | _ => none
  | .commit =>
    match d.committing with
    | some [] => some { d with committing := none, committed := d.committed ++ [d.content] }
    | _ => none
  | .read rid n =>
    match d.readers rid with
    | .reading got =>
      let piece := (d.content.drop got.length).take n
      if piece = [] then none
      else some (d.advance rid (.reading (got ++ piece)))
    | _ => none

/-- A handler opens the file once, and has read it when no byte is left. -/
def ready (env : Environment) (rid : Nat) (d : Disk pageSize) : FileAction → Bool
  | .openFile _ =>
    match d.readers rid with
    | .waiting => true
    | _ => false
  | .readToEnd =>
    match d.readers rid with
    | .reading got => (env.failure .readToEnd).isSome || decide (d.content.length ≤ got.length)
    | _ => false
  | .now => true
  | _ => false

/-- The operations of an export; the others are never ready. -/
def answer (config : Config) (env : Environment) (rid : Nat) (d : Disk pageSize) :
    (x : FileAction) → x.Answer × Disk pageSize
  | .openFile path =>
    match if path = config.databaseUrl then env.failure (.openFile path) else some Storage.missing with
    | none => (.ok (), d.advance rid (.reading []))
    | some message => (.error message, d)
  | .readToEnd =>
    match env.failure .readToEnd, d.readers rid with
    | none, .reading got => (.ok got, d.advance rid .finished)
    | none, _ => (.error Storage.missing, d.advance rid .finished)
    | some message, _ => (.error message, d.advance rid .finished)
  | .now => (env.clock, d)
  | .clonePool => (⟨0⟩, d)
  | .lockPool | .unlockPool => ((), d)
  | .poolGet _ | .readTemp _ | .tempdir | .unpack _ | .write _ _ | .establish _ | .rename _ _
  | .initPool _ _ | .runPendingMigrations _ => (.error Storage.missing, d)

end Disk

/-! ## Runs of exports -/

structure DiskTurn (pageSize : Nat) where
  env : Environment := {}
  move : DiskMove pageSize := .commit

/-- Exports over the file, while others commit to it. -/
def exports [Archive] (pageSize : Nat) (config : Config) :
    Machine FileAction.Answer (HeaderMap × IpAddr) (Except Failure Bytes) (Disk pageSize) (DiskTurn pageSize) where
  handler req := (exportHandler config req.1 req.2).run
  ready t := Disk.ready t.env
  answer t := Disk.answer config t.env
  background t d := d.step t.move

abbrev ExportState (pageSize : Nat) :=
  RunState FileAction.Answer (HeaderMap × IpAddr) (Except Failure Bytes) (Disk pageSize)

abbrev ExportEvent (pageSize : Nat) :=
  Event FileAction.Answer (HeaderMap × IpAddr) (Except Failure Bytes) (Disk pageSize)

abbrev ExportTrace (pageSize : Nat) := List (ExportEvent pageSize)

/-- The file when the server starts, before any commit of the run. -/
abbrev Disk.fresh (content : Bytes) : Disk pageSize where
  content := content
  committed := [content]

/-- The export found `opened` when it opened the file and left `ended` when it had read it, and `db` is
the `pwd_manager.db` of its archive. -/
structure Exported [Archive] (config : Config) (tr : ExportTrace pageSize) (rid : Nat) (archive : Bytes)
    (opened ended : Disk pageSize) (db : Bytes) : Prop where
  opens : ∃ req post, .act rid req ⟨.openFile config.databaseUrl, Except.ok ()⟩ opened post ∈ tr
  reads : ∃ req pre, .act rid req ⟨.readToEnd, Except.ok db⟩ pre ended ∈ tr
  packed : ∃ now, Archive.pack (exportFiles config now db) = .ok archive

/-- The export's `pwd_manager.db` is the last state committed before it opened the file, or one that was
committed before it had read the file. -/
def ConsistentSnapshot [Archive] (config : Config) (tr : ExportTrace pageSize) (rid : Nat) : Prop :=
  ∀ req archive, .reply rid req (.ok archive) ∈ tr →
    ∃ opened ended db, Exported config tr rid archive opened ended db ∧
      ∃ i, opened.committed.length ≤ i + 1 ∧ ended.committed[i]? = some db

/-- A successful export has opened and read the file once, and its archive is of what it has read. -/
def Archived [Archive] (config : Config) (h : History FileAction.Answer) : Except Failure Bytes → Prop
  | .ok archive => ∃ now db,
    h = [⟨.now, now⟩, ⟨.readToEnd, Except.ok db⟩, ⟨.openFile config.databaseUrl, Except.ok ()⟩] ∧
      Archive.pack (exportFiles config now db) = .ok archive
  | .error _ => True

theorem exports_archive [Archive] (config : Config) (req : HeaderMap × IpAddr) :
    Prog.Spec (fun _ _ => True) (Archived config) [] ((exports pageSize config).handler req) := by
  have spec : Fallible.Spec (fun _ _ => True) (fun _ _ => True)
      (fun h archive => Archived config h (.ok archive)) [] (exportHandler config req.1 req.2) := by
    refine Fallible.spec_bind.mpr (spec_attempt.mpr ⟨fun _ _ => ?_, fun _ _ => trivial⟩)
    refine Fallible.spec_bind.mpr (spec_fileOr ⟨trivial, fun | .ok _ => ?_ | .error _ => trivial⟩)
    refine Fallible.spec_bind.mpr (spec_fileOr ⟨trivial, fun | .ok db => ?_ | .error _ => trivial⟩)
    refine Fallible.spec_bind.mpr ⟨trivial, fun now => ?_⟩
    cases packed : Archive.pack (exportFiles config now db) with
    | ok archive =>
      simp only [Prog.bind, Function.comp_apply, Prog.spec_done, packed]
      exact ⟨now, db, rfl, packed⟩
    | error message =>
      simp only [Prog.bind, Function.comp_apply, Prog.spec_done, packed]
      trivial
  refine Prog.spec_mono (fun _ _ allowed => allowed) (fun h r met => ?_) spec
  cases r with
  | ok archive => exact met
  | error e => trivial

/-! ## What a reader has -/

/-- The page was written where the reader of state `i` did not notice: towards this state, or an earlier
one, it was ahead of the reader, and towards a later one it had been read. -/
def Written.unnoticed (pageSize rid i : Nat) (w : Written) : Bool :=
  match (w.readers rid).got with
  | some got =>
    if w.commits ≤ i then decide (got.length ≤ w.page * pageSize)
    else decide ((w.page + 1) * pageSize ≤ got.length)
  | none => true

/-- What has been read begins state `i`, and the rest of the file is the rest of this state. Before it is
committed, what has been read begins the file. -/
def Disk.Agrees (d : Disk pageSize) (i : Nat) (got : Bytes) : Prop :=
  match d.committed[i]? with
  | some state => got <+: state ∧ d.content.drop got.length = state.drop got.length
  | none => got <+: d.content

/-- A reader of the file keeps to state `i`. -/
def Disk.Follows (d : Disk pageSize) (rid i : Nat) : Prop :=
  ∀ got, (d.readers rid).got = some got → d.Agrees i got

section
variable {w : PageWrite pageSize} {file got state : Bytes} {d d' : Disk pageSize} {rid i n : Nat}

theorem Disk.advance_self {reader : Reader} : (d.advance rid reader).readers rid = reader :=
  Function.update_self ..

theorem Disk.advance_other {r : Nat} {reader : Reader} (other : rid ≠ r) :
    (d.advance r reader).readers rid = d.readers rid :=
  Function.update_of_ne other ..

theorem perform_ahead (read : got <+: file) (ahead : got.length ≤ w.page * pageSize) :
    got <+: w.perform file := by
  have kept : got <+: file.take (w.page * pageSize) :=
    List.prefix_take_iff.mpr ⟨read, ahead⟩
  unfold PageWrite.perform
  simp only [List.append_assoc]
  exact kept.trans (List.prefix_append _ _)

theorem perform_behind (passed : (w.page + 1) * pageSize ≤ n) :
    (w.perform file).drop n = file.drop n := by
  rw [Nat.succ_mul] at passed
  have written : (file.take (w.page * pageSize) ++
      List.replicate (w.page * pageSize - file.length) 0 ++ w.content.val).length =
      w.page * pageSize + pageSize := by
    have size := w.content.property
    simp only [List.length_append, List.length_take, List.length_replicate, size]
    omega
  obtain ⟨more, rfl⟩ := Nat.le.dest passed
  unfold PageWrite.perform
  rw [List.drop_append, List.drop_eq_nil_of_le (by omega), written, List.nil_append, List.drop_drop]
  congr 1
  omega

theorem Disk.Agrees.append (agrees : d.Agrees i got) (piece : Bytes)
    (next : piece <+: d.content.drop got.length) : d.Agrees i (got ++ piece) := by
  unfold Disk.Agrees at agrees ⊢
  split
  · rename_i state committed
    simp only [committed] at agrees
    obtain ⟨begun, rest⟩ := agrees
    have whole : got ++ state.drop got.length = state := by
      obtain ⟨more, rfl⟩ := begun
      rw [List.drop_left]
    refine ⟨?_, ?_⟩
    · rw [← whole, List.prefix_append_right_inj, ← rest]
      exact next
    · rw [List.length_append, ← List.drop_drop, ← List.drop_drop, rest]
  · rename_i ahead
    simp only [ahead] at agrees
    obtain ⟨more, same⟩ := agrees
    rw [← same, List.prefix_append_right_inj]
    rw [← same, List.drop_left] at next
    exact next

theorem Disk.Agrees.write (agrees : d.Agrees i got) (pages : Option (List (PageWrite pageSize)))
    (written : List Written) (ahead : d.committed.length ≤ i → got.length ≤ w.page * pageSize)
    (behind : i < d.committed.length → (w.page + 1) * pageSize ≤ got.length) :
    ({ d with content := w.perform d.content, committing := pages, written := written } :
      Disk pageSize).Agrees i got := by
  unfold Disk.Agrees at agrees ⊢
  split
  · rename_i state committed
    simp only [committed] at agrees
    have passed := behind (List.getElem?_eq_some_iff.mp committed).1
    exact ⟨agrees.1, (perform_behind passed).trans agrees.2⟩
  · rename_i early
    simp only [early] at agrees
    exact perform_ahead agrees (ahead (List.getElem?_eq_none_iff.mp early))

/-- The state that a commit completes is what the file holds. -/
theorem Disk.Agrees.commit (agrees : d.Agrees i got) (pages : Option (List (PageWrite pageSize))) :
    ({ d with committing := pages, committed := d.committed ++ [d.content] } : Disk pageSize).Agrees i got := by
  unfold Disk.Agrees at agrees ⊢
  rcases Nat.lt_trichotomy i d.committed.length with early | now | later
  · rw [List.getElem?_append_left early]
    exact agrees
  · subst now
    rw [List.getElem?_concat_length]
    rw [List.getElem?_eq_none (Nat.le_refl _)] at agrees
    exact ⟨agrees, rfl⟩
  · rw [List.getElem?_eq_none (by simp; omega)]
    rw [List.getElem?_eq_none (by omega)] at agrees
    exact agrees

/-- Where the file ends, the whole state has been read. -/
theorem Disk.Agrees.ended (agrees : d.Agrees i got) (done : d.content.length ≤ got.length)
    (known : i < d.committed.length) : d.committed[i]? = some got := by
  unfold Disk.Agrees at agrees
  rw [List.getElem?_eq_getElem known] at agrees ⊢
  obtain ⟨⟨more, whole⟩, rest⟩ := agrees
  rw [List.drop_eq_nil_of_le done, ← whole, List.drop_left] at rest
  rw [← whole, ← rest, List.append_nil]

theorem Disk.step_cases {move : DiskMove pageSize} (moved : d.step move = some d') :
    (∃ pages, d' = { d with committing := pages }) ∨
    (∃ (w : PageWrite pageSize) (rest : _), d' = { d with
      content := w.perform d.content
      committing := some rest
      written := ⟨w.page, d.committed.length, d.readers⟩ :: d.written }) ∨
    d' = { d with committing := none, committed := d.committed ++ [d.content] } ∨
    ∃ r got n, d.readers r = .reading got ∧
      d' = d.advance r (.reading (got ++ (d.content.drop got.length).take n)) := by
  cases move with
  | begin pages =>
    simp only [Disk.step] at moved
    split at moved
    · exact .inl ⟨some pages, (Option.some.inj moved).symm⟩
    · cases moved
  | writePage =>
    simp only [Disk.step] at moved
    split at moved
    · exact .inr (.inl ⟨_, _, (Option.some.inj moved).symm⟩)
    · cases moved
  | commit =>
    simp only [Disk.step] at moved
    split at moved
    · exact .inr (.inr (.inl (Option.some.inj moved).symm))
    · cases moved
  | read r n =>
    simp only [Disk.step] at moved
    split at moved
    · rename_i got reading
      split at moved
      · cases moved
      · exact .inr (.inr (.inr ⟨r, got, n, reading, (Option.some.inj moved).symm⟩))
    · cases moved

theorem Disk.step_written {move : DiskMove pageSize} (moved : d.step move = some d') :
    d.written ⊆ d'.written := by
  rcases Disk.step_cases moved with ⟨_, rfl⟩ | ⟨_, _, rfl⟩ | rfl | ⟨_, _, _, -, rfl⟩
  · exact List.Subset.refl _
  · exact List.subset_cons_self _ _
  · exact List.Subset.refl _
  · exact List.Subset.refl _

theorem Disk.step_follows {move : DiskMove pageSize} (moved : d.step move = some d')
    (unnoticed : ∀ w ∈ d'.written, w.unnoticed pageSize rid i) (follows : d.Follows rid i) :
    d'.Follows rid i := by
  intro got here
  rcases Disk.step_cases moved with ⟨pages, rfl⟩ | ⟨w, rest, rfl⟩ | rfl | ⟨r, old, n, reading, rfl⟩
  · exact follows got here
  · have fits := unnoticed _ List.mem_cons_self
    simp only [Written.unnoticed, here] at fits
    refine (follows got here).write _ _ (fun early => ?_) (fun late => ?_)
    · rw [if_pos early] at fits
      exact of_decide_eq_true fits
    · rw [if_neg (by omega)] at fits
      exact of_decide_eq_true fits
  · exact (follows got here).commit _
  · by_cases same : rid = r
    · subst same
      rw [Disk.advance_self] at here
      obtain rfl := Option.some.inj here
      have before : d.Agrees i old := follows old (by rw [reading]; rfl)
      exact before.append _ (List.take_prefix _ _)
    · rw [Disk.advance_other same] at here
      exact follows got here

/-- The operations of an export change nothing but how far it has come. -/
theorem Disk.answer_keeps (d : Disk pageSize) (rid : Nat) (config : Config) (env : Environment) (x : FileAction) :
    ∃ reader, (d.answer config env rid x).2 = d.advance rid reader := by
  have same : d = d.advance rid (d.readers rid) := by
    rw [Disk.advance, Function.update_eq_self]
  cases x with
  | openFile path =>
    simp only [Disk.answer]
    split
    · exact ⟨_, rfl⟩
    · exact ⟨_, same⟩
  | readToEnd =>
    simp only [Disk.answer]
    split <;> exact ⟨_, rfl⟩
  | _ => exact ⟨_, same⟩

theorem Disk.answer_committed {config : Config} {env : Environment} {x : FileAction} :
    (d.answer config env rid x).2.committed = d.committed := by
  obtain ⟨reader, after⟩ := d.answer_keeps rid config env x
  rw [after]
  rfl

theorem Disk.answer_written {config : Config} {env : Environment} {x : FileAction} :
    (d.answer config env rid x).2.written = d.written := by
  obtain ⟨reader, after⟩ := d.answer_keeps rid config env x
  rw [after]
  rfl

theorem Disk.answer_follows {config : Config} {env : Environment} {x : FileAction} {r : Nat}
    (ready : d.ready env r x) (follows : d.Follows rid i) :
    (d.answer config env r x).2.Follows rid i := by
  intro got here
  by_cases same : rid = r
  · subst same
    cases x with
    | openFile path =>
      have waiting : d.readers rid = .waiting := by
        simp only [Disk.ready] at ready
        split at ready
        · assumption
        · cases ready
      simp only [Disk.answer] at here ⊢
      split at here
      · rw [Disk.advance_self] at here
        cases here
        exact follows [] (by rw [waiting]; rfl)
      · exact follows got here
    | readToEnd =>
      have closed : (d.answer config env rid .readToEnd).2.readers rid = .finished := by
        simp only [Disk.answer]
        split <;> exact Disk.advance_self
      rw [closed] at here
      cases here
    | _ => exact follows got here
  · obtain ⟨reader, after⟩ := d.answer_keeps r config env x
    rw [after] at here ⊢
    rw [Disk.advance_other same] at here
    exact follows got here

/-- The answer of `read_to_end` is all that has been read, up to the end of the file. -/
theorem Disk.readToEnd_ok (config : Config) {env : Environment} {db : Bytes}
    (ready : d.ready env rid .readToEnd) (answered : (d.answer config env rid .readToEnd).1 = .ok db) :
    d.readers rid = .reading db ∧ d.content.length ≤ db.length := by
  simp only [Disk.answer] at answered
  split at answered
  · rename_i calm reading
    cases answered
    simp only [Disk.ready, reading, calm, Option.isSome_none, Bool.false_or, decide_eq_true_eq] at ready
    exact ⟨reading, ready⟩
  · cases answered
  · cases answered

end

/-! ## Exports are snapshots -/

/-- The export reads state `i`, and has read it if it was committed by then. -/
structure Followed (rid i : Nat) (c : ExportState pageSize) : Prop where
  now : c.world.Follows rid i
  ended : ∀ req db pre post, .act rid req ⟨.readToEnd, Except.ok db⟩ pre post ∈ c.trace →
    i < post.committed.length → post.committed[i]? = some db

section
variable [Archive] {config : Config} {c c' : ExportState pageSize} {rid i : Nat} {content : Bytes}

theorem Followed.step (followed : Followed rid i c) (step : (exports pageSize config).Step c c')
    (unnoticed : ∀ w ∈ c'.world.written, w.unnoticed pageSize rid i) : Followed rid i c' := by
  cases step with
  | start r q unused =>
    refine ⟨followed.now, fun req db pre post member => ?_⟩
    exact followed.ended req db pre post (by simpa using member)
  | reply running =>
    refine ⟨followed.now, fun req db pre post member => ?_⟩
    exact followed.ended req db pre post (by simpa using member)
  | background turn moved =>
    exact ⟨Disk.step_follows moved unnoticed followed.now, followed.ended⟩
  | @act r q x k turn running ready =>
    refine ⟨Disk.answer_follows ready followed.now, fun req db pre post member known => ?_⟩
    rcases List.mem_cons.mp member with here | earlier
    · obtain ⟨rfl, rfl, exchange, rfl, rfl⟩ := Event.act.inj here
      obtain ⟨rfl, answered⟩ := Exchange.mk.inj exchange
      obtain ⟨reading, done⟩ := Disk.readToEnd_ok config ready (eq_of_heq answered).symm
      have agrees : c.world.Agrees i db := followed.now db (by rw [reading]; rfl)
      have same : ((exports pageSize config).answer turn rid c.world .readToEnd).2.committed =
          c.world.committed := Disk.answer_committed
      rw [same] at known ⊢
      exact agrees.ended done known
    · exact followed.ended req db pre post earlier known

theorem written_step (step : (exports pageSize config).Step c c') : c.world.written ⊆ c'.world.written := by
  cases step with
  | start | reply => exact List.Subset.refl _
  | background turn moved => exact Disk.step_written moved
  | @act r q x k turn running ready =>
    have same : ((exports pageSize config).answer turn r c.world x).2.written = c.world.written :=
      Disk.answer_written
    rw [same]
    exact List.Subset.refl _

theorem reachable_followed (reached : (exports pageSize config).Reachable (Disk.fresh content) c)
    (unnoticed : ∀ w ∈ c.world.written, w.unnoticed pageSize rid i) : Followed rid i c := by
  induction reached with
  | refl =>
    refine ⟨fun got here => ?_, nofun⟩
    cases here
    unfold Disk.Agrees
    cases i with
    | zero => exact ⟨List.nil_prefix, rfl⟩
    | succ i => exact List.nil_prefix
  | tail run step ih =>
    exact (ih fun w member => unnoticed w (written_step step member)).step step unnoticed

/-- State `i` was the last one committed when the export opened the file, or was committed before the
export had read it. -/
def during (rid i : Nat) : ExportEvent pageSize → Bool
  | .act r _ ⟨.openFile _, _⟩ pre _ => r != rid || decide (pre.committed.length ≤ i + 1)
  | .act r _ ⟨.readToEnd, _⟩ _ post => r != rid || decide (i < post.committed.length)
  | _ => true

/-- For some state of the database during the export, every page that was written towards it was ahead
of the export, and every page that was written towards a later one had been read. -/
def Undivided (c : ExportState pageSize) (rid : Nat) : Prop :=
  ∃ i, (∀ e ∈ c.trace, during rid i e) ∧ ∀ w ∈ c.world.written, w.unnoticed pageSize rid i

/-- An export that no commit divides is a consistent snapshot. -/
theorem export_consistent (reached : (exports pageSize config).Reachable (Disk.fresh content) c)
    (undivided : Undivided c rid) : ConsistentSnapshot config c.trace rid := by
  obtain ⟨i, window, unnoticed⟩ := undivided
  have followed := reachable_followed reached unnoticed
  intro req archive replied
  have tracked := Machine.reachable_tracked (exports_archive config) reached
  obtain ⟨begun, now, db, history, packed⟩ := tracked.traced.replied replied
  have opens : (⟨.openFile config.databaseUrl, Except.ok ()⟩ : Exchange FileAction.Answer) ∈ own rid c.trace := by
    rw [history]
    simp
  have reads : (⟨.readToEnd, Except.ok db⟩ : Exchange FileAction.Answer) ∈ own rid c.trace := by
    rw [history]
    simp
  obtain ⟨q, opened, after, opens⟩ := mem_own.mp opens
  obtain ⟨q', before, ended, reads⟩ := mem_own.mp reads
  have early := window _ opens
  have late := window _ reads
  simp only [during, bne_self_eq_false, Bool.false_or, decide_eq_true_eq] at early late
  exact ⟨opened, ended, db, ⟨⟨q, after, opens⟩, ⟨q', before, reads⟩, now, packed⟩, i, early,
    followed.ended q' db before ended reads late⟩

end

/-! ## An export and a commit -/

/-- The first page of a database of two pages in rollback-journal mode, with its change counter. -/
def headerPage (counter : UInt8) : PageWrite 512 where
  page := 0
  content := ⟨[83, 81, 76, 105, 116, 101, 32, 102, 111, 114, 109, 97, 116, 32, 51, 0, 2, 0, 1, 1, 0, 64, 32, 32,
    0, 0, 0, counter, 0, 0, 0, 2] ++ List.replicate 480 0, by
      rw [List.length_append, List.length_replicate]
      rfl⟩

def rowsPage (row : UInt8) : PageWrite 512 where
  page := 1
  content := ⟨List.replicate 512 row, List.length_replicate⟩

/-- The database after the transaction of the number, which changes both pages. -/
def twoPages (number : UInt8) : Bytes := (headerPage number).content.val ++ (rowsPage number).content.val

abbrev ExportMove := Move (HeaderMap × IpAddr) (DiskTurn 512)

def happens (move : DiskMove 512) : ExportMove := .background { move := move }

def commitMoves (number : UInt8) : List ExportMove :=
  [happens (.begin [headerPage number, rowsPage number]), happens .writePage, happens .writePage, happens .commit]

/-- The event is the reply to an export with the archive of the database. -/
def archives (rid : Nat) (db : Bytes) : ExportEvent 512 → Bool
  | .reply r q (.ok archive) => r == rid && q == (adminHeaders, localhost) && archive == plainArchived db
  | _ => false

theorem reply_of_archives {tr : ExportTrace 512} {rid : Nat} {db : Bytes} (found : tr.any (archives rid db)) :
    .reply rid (adminHeaders, localhost) (.ok (plainArchived db)) ∈ tr := by
  obtain ⟨e, member, here⟩ := List.any_eq_true.mp found
  unfold archives at here
  split at here
  · simp only [Bool.and_eq_true, beq_iff_eq] at here
    obtain ⟨⟨rfl, rfl⟩, rfl⟩ := here
    exact member
  · cases here

/-- One commit before the export reads the file, and one when it has read all its pages. -/
def followedExport : ExportState 512 :=
  letI := plainArchive
  (exports 512 plainConfig).play
    ([.start 1 (adminHeaders, localhost), .step 1 {}] ++ commitMoves 2 ++
      [happens (.read 1 512), happens (.read 1 512)] ++ commitMoves 3 ++ [.step 1 {}, .step 1 {}, .step 1 {}])
    { world := Disk.fresh (twoPages 1) }

theorem followedExport_consistent :
    letI := plainArchive
    ConsistentSnapshot plainConfig followedExport.trace 1 ∧
      .reply 1 (adminHeaders, localhost) (.ok (plainArchived (twoPages 2))) ∈ followedExport.trace := by
  let _ := plainArchive
  have checked : followedExport.trace.all (during 1 1) ∧
      followedExport.world.written.all (fun w => w.unnoticed 512 1 1) ∧
      followedExport.trace.any (archives 1 (twoPages 2)) := by
    decide +kernel
  obtain ⟨window, unnoticed, answered⟩ := checked
  refine ⟨?_, reply_of_archives answered⟩
  exact export_consistent (Machine.play_reachable _ _)
    ⟨1, List.all_eq_true.mp window, List.all_eq_true.mp unnoticed⟩

/-- What the export has read is no state that was ever committed. -/
def readsUncommitted : ExportEvent 512 → Bool
  | .act _ _ ⟨.readToEnd, (.ok db : Except String Bytes)⟩ _ ended => decide (db ∉ ended.committed)
  | _ => true

/-- The transaction commits between the two reads of the export. -/
def dividedExport : ExportState 512 :=
  letI := plainArchive
  (exports 512 plainConfig).play
    ([.start 1 (adminHeaders, localhost), .step 1 {}, happens (.read 1 512)] ++ commitMoves 2 ++
      [happens (.read 1 512), .step 1 {}, .step 1 {}, .step 1 {}])
    { world := Disk.fresh (twoPages 1) }

/-- The archive has the first page of the old state and the second one of the new state, and is answered
with 200. -/
theorem dividedExport_torn :
    letI := plainArchive
    (exports 512 plainConfig).Reachable (Disk.fresh (twoPages 1)) dividedExport ∧
      ¬ConsistentSnapshot plainConfig dividedExport.trace 1 ∧
      ∃ db, .reply 1 (adminHeaders, localhost) (.ok (plainArchived db)) ∈ dividedExport.trace ∧
        db ∉ dividedExport.world.committed := by
  let _ := plainArchive
  have checked : dividedExport.trace.any
        (archives 1 ((headerPage 1).content.val ++ (rowsPage 2).content.val)) ∧
      dividedExport.trace.all readsUncommitted ∧
      (headerPage 1).content.val ++ (rowsPage 2).content.val ∉ dividedExport.world.committed := by
    decide +kernel
  obtain ⟨answered, torn, never⟩ := checked
  have replied := reply_of_archives answered
  refine ⟨Machine.play_reachable _ _, fun consistent => ?_, _, replied, never⟩
  obtain ⟨opened, ended, db, exported, i, -, known⟩ := consistent _ _ replied
  obtain ⟨req, pre, reads⟩ := exported.reads
  have uncommitted := List.all_eq_true.mp torn _ reads
  exact of_decide_eq_true uncommitted (List.mem_of_getElem? known)

end PasswordManager
