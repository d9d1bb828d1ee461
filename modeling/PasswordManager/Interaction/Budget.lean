import Mathlib.Algebra.BigOperators.Group.Finset.Piecewise
import Mathlib.Algebra.Order.BigOperators.Group.Finset
import PasswordManager.Interaction.Machine

/-!
# Budgets

A program spends only what it has drawn itself. `Thrifty` follows what a program still holds, and
when every handler keeps to it then no run spends more than it has drawn.
-/

namespace PasswordManager.Interaction

variable {Act : Type} {Ans : Act → Type} {Req Res σ ι α β ε M : Type}

/-- What an exchange brings in, and what an action and a result use up. -/
structure Budget (Ans : Act → Type) (Res M : Type) where
  drawn : Exchange Ans → M
  spent : Act → M
  paid : Res → M

namespace Budget

section
variable [AddCommMonoid M] (B : Budget Ans Res M)

def income (h : History Ans) : M := (h.map B.drawn).sum

def expense (h : History Ans) : M := (h.map fun e => B.spent e.action).sum

def credit : Event Ans Req Res σ → M
  | .act _ _ e _ _ => B.drawn e
  | .start _ _ | .reply _ _ _ => 0

def debit : Event Ans Req Res σ → M
  | .act _ _ e _ _ => B.spent e.action
  | .reply _ _ r => B.paid r
  | .start _ _ => 0

def earned (tr : Trace Ans Req Res σ) : M := (tr.map B.credit).sum

def owed (tr : Trace Ans Req Res σ) : M := (tr.map B.debit).sum

end

/-! ## The events of one request -/

def ofRequest (rid : Nat) (tr : Trace Ans Req Res σ) : Trace Ans Req Res σ :=
  tr.filter fun e => e.rid = rid

section
variable {rid : Nat} {e : Event Ans Req Res σ} {tr : Trace Ans Req Res σ}

theorem ofRequest_same (mine : e.rid = rid) : ofRequest rid (e :: tr) = e :: ofRequest rid tr := by
  unfold ofRequest
  rw [List.filter_cons_of_pos]
  exact decide_eq_true mine

theorem ofRequest_other (other : e.rid ≠ rid) : ofRequest rid (e :: tr) = ofRequest rid tr := by
  unfold ofRequest
  rw [List.filter_cons_of_neg]
  simp only [decide_eq_true_eq]
  exact other

variable [AddCommMonoid M] {B : Budget Ans Res M}

@[simp] theorem earned_cons : B.earned (e :: tr) = B.credit e + B.earned tr := by
  unfold earned
  rw [List.map_cons, List.sum_cons]

@[simp] theorem owed_cons : B.owed (e :: tr) = B.debit e + B.owed tr := by
  unfold owed
  rw [List.map_cons, List.sum_cons]

theorem income_cons {x : Exchange Ans} {h : History Ans} :
    B.income (x :: h) = B.drawn x + B.income h := by
  unfold income
  rw [List.map_cons, List.sum_cons]

theorem expense_cons {x : Exchange Ans} {h : History Ans} :
    B.expense (x :: h) = B.spent x.action + B.expense h := by
  unfold expense
  rw [List.map_cons, List.sum_cons]

theorem earned_ofRequest (rid : Nat) (tr : Trace Ans Req Res σ) :
    B.earned (ofRequest rid tr) = B.income (own rid tr) := by
  induction tr with
  | nil => rfl
  | cons e tr ih =>
    by_cases mine : e.rid = rid
    · rw [ofRequest_same mine, earned_cons, ih]
      cases e with
      | start r req => exact zero_add _
      | reply r req res => exact zero_add _
      | act r req e pre post =>
        obtain rfl : r = rid := mine
        rw [own_act_same, income_cons]
        rfl
    · rw [ofRequest_other mine, ih]
      cases e with
      | start r req => rfl
      | reply r req res => rfl
      | act r req e pre post =>
        have other : r ≠ rid := mine
        rw [own_act_other other]

theorem owed_ofRequest (unanswered : ∀ req res, .reply rid req res ∉ tr) :
    B.owed (ofRequest rid tr) = B.expense (own rid tr) := by
  induction tr with
  | nil => rfl
  | cons e tr ih =>
    have earlier := ih fun req res member => unanswered req res (List.mem_cons_of_mem _ member)
    by_cases mine : e.rid = rid
    · rw [ofRequest_same mine, owed_cons, earlier]
      cases e with
      | start r req => exact zero_add _
      | reply r req res =>
        obtain rfl : r = rid := mine
        exact absurd List.mem_cons_self (unanswered req res)
      | act r req e pre post =>
        obtain rfl : r = rid := mine
        rw [own_act_same, expense_cons]
        rfl
    · rw [ofRequest_other mine, earlier]
      cases e with
      | start r req => rfl
      | reply r req res => rfl
      | act r req e pre post =>
        have other : r ≠ rid := mine
        rw [own_act_other other]

omit B in
/-- A sum over a trace, request by request. -/
theorem sum_ofRequest (f : Event Ans Req Res σ → M) {rids : Finset Nat}
    (covers : ∀ e ∈ tr, e.rid ∈ rids) :
    (tr.map f).sum = ∑ rid ∈ rids, ((ofRequest rid tr).map f).sum := by
  induction tr with
  | nil => simp [ofRequest]
  | cons e tr ih =>
    have split : ∀ rid, ((ofRequest rid (e :: tr)).map f).sum =
        (if e.rid = rid then f e else 0) + ((ofRequest rid tr).map f).sum := by
      intro rid
      by_cases mine : e.rid = rid
      · rw [ofRequest_same mine, if_pos mine, List.map_cons, List.sum_cons]
      · rw [ofRequest_other mine, if_neg mine, zero_add]
    rw [List.map_cons, List.sum_cons, ih fun e member => covers e (List.mem_cons_of_mem _ member)]
    simp only [split]
    rw [Finset.sum_add_distrib, Finset.sum_ite_eq rids, if_pos (covers e List.mem_cons_self)]

end

/-! ## One program -/

section
variable [AddCommMonoid M] [PartialOrder M] (B : Budget Ans Res M)

/-- After the history the program still holds `m`. -/
def Holds (m : M) (h : History Ans) : Prop := m + B.expense h ≤ B.income h

def May (h : History Ans) (x : Act) : Prop := B.Holds (B.spent x) h

def Pays (h : History Ans) (r : Res) : Prop := B.Holds (B.paid r) h

/-- A program that begins with `m` spends only what it holds, and ends with `n` of its value. -/
def Thrifty (m : M) (p : Fallible Ans ε α) (n : α → M) : Prop :=
  ∀ h, B.Holds m h → Fallible.Spec B.May (fun h _ => B.Holds 0 h) (fun h v => B.Holds (n v) h) h p

/-- Every request has spent at most what it has drawn, and what still runs keeps to that. -/
structure Solvent (c : RunState Ans Req Res σ) : Prop where
  running : Machine.Conducted (fun _ => B.May) (fun _ => B.Pays) c
  covered : ∀ rid, B.owed (ofRequest rid c.trace) ≤ B.earned (ofRequest rid c.trace)

variable {B} {m m' : M} {h : History Ans} {n : α → M} {k : β → M} {p : Fallible Ans ε α}
  {f : α → Fallible Ans ε β} {c d : RunState Ans Req Res σ}

theorem Thrifty.bind (first : B.Thrifty m p n) (next : ∀ v, B.Thrifty (n v) (f v) k) :
    B.Thrifty m (p >>= f) k := by
  intro h holds
  rw [Fallible.spec_bind]
  exact Fallible.spec_mono (fun h v held => next v h held) (first h holds)

theorem Thrifty.map {g : α → β} (first : B.Thrifty m p fun v => k (g v)) :
    B.Thrifty m (g <$> p) k := by
  intro h holds
  rw [Fallible.spec_map]
  exact first h holds

/-- Only the request of the new event has more to cover. -/
theorem covered_cons {e : Event Ans Req Res σ} {tr : Trace Ans Req Res σ}
    (covered : ∀ rid, B.owed (ofRequest rid tr) ≤ B.earned (ofRequest rid tr))
    (here : B.debit e + B.owed (ofRequest e.rid tr) ≤ B.credit e + B.earned (ofRequest e.rid tr))
    (rid : Nat) : B.owed (ofRequest rid (e :: tr)) ≤ B.earned (ofRequest rid (e :: tr)) := by
  by_cases mine : e.rid = rid
  · subst mine
    rw [ofRequest_same rfl, owed_cons, earned_cons]
    exact here
  · rw [ofRequest_other mine]
    exact covered rid

theorem Solvent.initial (w : σ) : Solvent B ({ world := w } : RunState Ans Req Res σ) where
  running := nofun
  covered _ := le_rfl

/-- The requests in flight may be lost. -/
theorem Solvent.crash (solvent : Solvent B c) (w : σ) : Solvent B { world := w, trace := c.trace } where
  running := nofun
  covered := solvent.covered

variable [IsOrderedAddMonoid M]

theorem Holds.mono (holds : B.Holds m h) (less : m' ≤ m) : B.Holds m' h :=
  (add_le_add_left less _).trans holds

theorem Holds.cons (holds : B.Holds m h) {e : Exchange Ans}
    (kept : m' + B.spent e.action ≤ m + B.drawn e) : B.Holds m' (e :: h) := by
  unfold Holds at *
  rw [expense_cons, income_cons, ← add_assoc]
  calc m' + B.spent e.action + B.expense h
      ≤ m + B.drawn e + B.expense h := add_le_add_left kept _
    _ = B.drawn e + (m + B.expense h) := by rw [add_comm m, add_assoc]
    _ ≤ B.drawn e + B.income h := add_le_add_right holds _

theorem thrifty_pure {v : α} (enough : n v ≤ m) : B.Thrifty m (pure v : Fallible Ans ε α) n :=
  fun _ holds => holds.mono enough

theorem thrifty_perform {x : Act} {n : Ans x → M} (held : B.spent x ≤ m)
    (kept : ∀ a, n a + B.spent x ≤ m + B.drawn ⟨x, a⟩) :
    B.Thrifty m (ExceptT.lift (Prog.perform x) : Fallible Ans ε (Ans x)) n :=
  fun _ holds => ⟨holds.mono held, fun a => holds.cons (kept a)⟩

/-- Nobody spends what another has drawn. -/
theorem Solvent.total (solvent : Solvent B c) : B.owed c.trace ≤ B.earned c.trace := by
  have covers : ∀ e ∈ c.trace, e.rid ∈ (c.trace.map Event.rid).toFinset := by
    intro e member
    rw [List.mem_toFinset]
    exact List.mem_map_of_mem member
  unfold owed earned
  rw [sum_ofRequest B.debit covers, sum_ofRequest B.credit covers]
  exact Finset.sum_le_sum fun rid _ => solvent.covered rid

variable [CanonicallyOrderedAdd M]

theorem thrifty_throw {e : ε} : B.Thrifty m (throw e : Fallible Ans ε α) n :=
  fun _ holds => holds.mono zero_le

/-- A program that spends nothing needs nothing. -/
theorem spec_free {p : Prog Ans Res} (holds : B.Holds 0 h)
    (free : Prog.Spec (fun _ x => B.spent x = 0) (fun _ r => B.paid r = 0) h p) :
    Prog.Spec B.May B.Pays h p := by
  induction p generalizing h with
  | done v =>
    have nothing : B.paid v = 0 := free
    show B.Holds (B.paid v) h
    rw [nothing]
    exact holds
  | act x k ih =>
    have nothing : B.spent x = 0 := free.1
    refine ⟨?_, fun a => ih a (holds.cons ?_) (free.2 a)⟩
    · show B.Holds (B.spent x) h
      rw [nothing]
      exact holds
    · rw [nothing, add_zero]
      exact zero_le

theorem Solvent.step {N : Machine Ans Req Res σ ι}
    (specs : ∀ req, Prog.Spec B.May B.Pays [] (N.handler req)) (solvent : Solvent B c)
    (step : N.Step c d) : Solvent B d where
  running := Machine.step_conducted specs solvent.running step
  covered := by
    have running := solvent.running
    cases step with
    | background choice moved => exact solvent.covered
    | start rid req unused =>
      exact covered_cons solvent.covered (add_le_add_right (solvent.covered rid) 0)
    | @act rid req x k choice found ready =>
      obtain ⟨live, met⟩ := running _ _ _ found
      have held : B.spent x + B.expense (own rid c.trace) ≤ B.income (own rid c.trace) := met.1
      rw [← owed_ofRequest live.2, ← earned_ofRequest] at held
      exact covered_cons solvent.covered (held.trans le_add_self)
    | @reply rid req v found =>
      obtain ⟨live, met⟩ := running _ _ _ found
      have held : B.paid v + B.expense (own rid c.trace) ≤ B.income (own rid c.trace) := met
      rw [← owed_ofRequest live.2, ← earned_ofRequest] at held
      exact covered_cons solvent.covered (held.trans le_add_self)

end

end Budget

end PasswordManager.Interaction
