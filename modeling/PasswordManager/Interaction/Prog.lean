import Mathlib.Logic.Basic

/-!
# Programs of atomic actions

A request handler is a program that performs atomic actions one at a time, each chosen
from the answers to the earlier ones. `Spec` is a program logic over the history of
answers: what a program may do next and what it may return, given what it has been told.
-/

namespace PasswordManager.Interaction

variable {Act : Type} {Ans : Act → Type} {α β ε : Type}

inductive Prog (Ans : Act → Type) (α : Type) where
  | done (value : α)
  | act (action : Act) (next : Ans action → Prog Ans α)

/-- One action together with the answer it received. -/
structure Exchange (Ans : Act → Type) where
  action : Act
  answer : Ans action

/-- The exchanges of one program, newest first. -/
abbrev History (Ans : Act → Type) := List (Exchange Ans)

namespace Prog

def bind : Prog Ans α → (α → Prog Ans β) → Prog Ans β
  | .done v, f => f v
  | .act x k, f => .act x fun a => (k a).bind f

instance : Monad (Prog Ans) where
  pure := .done
  bind := bind

def perform (x : Act) : Prog Ans (Ans x) := .act x .done

@[simp] theorem pure_eq (v : α) : (pure v : Prog Ans α) = .done v := rfl

@[simp] theorem done_bind (v : α) (f : α → Prog Ans β) : (Prog.done v >>= f) = f v := rfl

@[simp] theorem act_bind (x : Act) (k : Ans x → Prog Ans α) (f : α → Prog Ans β) :
    (Prog.act x k >>= f) = .act x fun a => k a >>= f := rfl

theorem bind_done (p : Prog Ans α) : (p >>= Prog.done) = p := by
  induction p with
  | done => rfl
  | act x k ih => simp only [act_bind, ih]

theorem bind_assoc {γ : Type} (p : Prog Ans α) (f : α → Prog Ans β) (g : β → Prog Ans γ) :
    (p >>= f >>= g) = (p >>= fun v => f v >>= g) := by
  induction p with
  | done => rfl
  | act x k ih => simp only [act_bind, ih]

instance : LawfulMonad (Prog Ans) :=
  LawfulMonad.mk' _ bind_done (fun _ _ => rfl) bind_assoc

/-- The same program over a larger set of actions. -/
def embed {Act' : Type} {Ans' : Act' → Type} (f : Act → Act') (g : ∀ x, Ans' (f x) → Ans x) :
    Prog Ans α → Prog Ans' α
  | .done v => .done v
  | .act x k => .act (f x) fun a => (k (g x a)).embed f g

theorem embed_bind {Act' : Type} {Ans' : Act' → Type} {f : Act → Act'}
    {g : ∀ x, Ans' (f x) → Ans x} (p : Prog Ans α) (q : α → Prog Ans β) :
    (p >>= q).embed f g = p.embed f g >>= fun v => (q v).embed f g := by
  induction p with
  | done => rfl
  | act x k ih => simp only [act_bind, embed, ih]

@[simp] theorem embed_done {Act' : Type} {Ans' : Act' → Type} {f : Act → Act'}
    {g : ∀ x, Ans' (f x) → Ans x} (v : α) : (Prog.done v : Prog Ans α).embed f g = .done v := rfl

/-- Each action of the program is allowed by `may` after the history so far, and the value it
stops with meets `post`, whatever the answers are. -/
def Spec (may : History Ans → Act → Prop) (post : History Ans → α → Prop) :
    History Ans → Prog Ans α → Prop
  | h, .done v => post h v
  | h, .act x k => may h x ∧ ∀ a, Spec may post (⟨x, a⟩ :: h) (k a)

variable {may may' : History Ans → Act → Prop} {h : History Ans}

@[simp] theorem spec_done {post : History Ans → α → Prop} {v : α} :
    Spec may post h (.done v) ↔ post h v := Iff.rfl

@[simp] theorem spec_act {post : History Ans → α → Prop} {x : Act} {k : Ans x → Prog Ans α} :
    Spec may post h (.act x k) ↔ may h x ∧ ∀ a, Spec may post (⟨x, a⟩ :: h) (k a) := Iff.rfl

@[simp] theorem spec_perform {post : (h : History Ans) → Ans x → Prop} :
    Spec may post h (perform x) ↔ may h x ∧ ∀ a, post (⟨x, a⟩ :: h) a := Iff.rfl

theorem spec_bind {post : History Ans → β → Prop} {p : Prog Ans α} {f : α → Prog Ans β} :
    Spec may post h (p >>= f) ↔ Spec may (fun h v => Spec may post h (f v)) h p := by
  induction p generalizing h with
  | done => rfl
  | act x k ih => simp only [act_bind, spec_act, ih]

theorem spec_mono {post post' : History Ans → α → Prop} {p : Prog Ans α}
    (weaker : ∀ h x, may h x → may' h x) (implied : ∀ h v, post h v → post' h v)
    (spec : Spec may post h p) : Spec may' post' h p := by
  induction p generalizing h with
  | done v => exact implied h v spec
  | act x k ih => exact ⟨weaker h x spec.1, fun a => ih a (spec.2 a)⟩

/-- A program that meets two specifications meets both at once. -/
theorem spec_and {post post' : History Ans → α → Prop} {p : Prog Ans α} (one : Spec may post h p)
    (two : Spec may' post' h p) :
    Spec (fun h x => may h x ∧ may' h x) (fun h v => post h v ∧ post' h v) h p := by
  induction p generalizing h with
  | done v => exact ⟨one, two⟩
  | act x k ih => exact ⟨⟨one.1, two.1⟩, fun a => ih a (one.2 a) (two.2 a)⟩

/-- What further exchanges keep, every program keeps. -/
theorem spec_keeps {inv : History Ans → Prop} (kept : ∀ h e, inv h → inv (e :: h)) (start : inv h)
    (p : Prog Ans α) : Spec (fun _ _ => True) (fun h _ => inv h) h p := by
  induction p generalizing h with
  | done v => exact start
  | act x k ih => exact ⟨trivial, fun a => ih a (kept h ⟨x, a⟩ start)⟩

/-- And it holds before each of its actions. -/
theorem spec_always {inv : History Ans → Prop} (kept : ∀ h e, inv h → inv (e :: h)) (start : inv h)
    (p : Prog Ans α) : Spec (fun h _ => inv h) (fun h _ => inv h) h p := by
  induction p generalizing h with
  | done v => exact start
  | act x k ih => exact ⟨start, fun a => ih a (kept h ⟨x, a⟩ start)⟩

theorem spec_trivial (p : Prog Ans α) : Spec (fun _ _ => True) (fun _ _ => True) h p :=
  spec_keeps (fun _ _ holds => holds) trivial p

/-- A specification of a program is one of the embedded program, over related histories. -/
theorem spec_embed_rel {Act' : Type} {Ans' : Act' → Type} {f : Act → Act'}
    {g : ∀ x, Ans' (f x) → Ans x} {may' : History Ans' → Act' → Prop}
    {post : History Ans → α → Prop} {post' : History Ans' → α → Prop}
    {related : History Ans → History Ans' → Prop} {h' : History Ans'} {p : Prog Ans α}
    (step : ∀ h h' x a, related h h' → related (⟨x, g x a⟩ :: h) (⟨f x, a⟩ :: h'))
    (allowed : ∀ h h' x, related h h' → may h x → may' h' (f x))
    (ended : ∀ h h' v, related h h' → post h v → post' h' v) (start : related h h')
    (spec : Spec may post h p) : Spec may' post' h' (p.embed f g) := by
  induction p generalizing h h' with
  | done v => exact ended h h' v start spec
  | act x k ih => exact ⟨allowed h h' x start spec.1, fun a => ih _ (step h h' x a start) (spec.2 _)⟩

/-- An embedded program keeps an invariant of the larger history that its actions keep. -/
theorem spec_embed {Act' : Type} {Ans' : Act' → Type} {f : Act → Act'}
    {g : ∀ x, Ans' (f x) → Ans x} {may : History Ans' → Act' → Prop}
    {post : History Ans' → α → Prop} (inv : History Ans' → Prop) {h : History Ans'}
    (inner : History Ans) {p : Prog Ans α}
    (kept : ∀ h x a, inv h → inv (⟨f x, a⟩ :: h)) (allowed : ∀ h x, inv h → may h (f x))
    (spec : Spec (fun _ _ => True) (fun _ v => ∀ h, inv h → post h v) inner p) (start : inv h) :
    Spec may post h (p.embed f g) := by
  induction p generalizing h inner with
  | done v => exact spec h start
  | act x k ih => exact ⟨allowed h x start, fun a => ih _ _ (spec.2 _) (kept h x a start)⟩

end Prog

/-- A program that may stop early with an error. -/
abbrev Fallible (Ans : Act → Type) (ε : Type) := ExceptT ε (Prog Ans)

namespace Fallible

variable {may : History Ans → Act → Prop} {bad : History Ans → ε → Prop} {h : History Ans}

/-- `Prog.Spec` with one postcondition for errors and one for values. -/
def Spec (may : History Ans → Act → Prop) (bad : History Ans → ε → Prop)
    (good : History Ans → α → Prop) (h : History Ans) (p : Fallible Ans ε α) : Prop :=
  Prog.Spec may (fun h r => match r with
    | .ok v => good h v
    | .error e => bad h e) h p.run

@[simp] theorem spec_pure {good : History Ans → α → Prop} {v : α} :
    Spec may bad good h (pure v) ↔ good h v := Iff.rfl

@[simp] theorem spec_throw {good : History Ans → α → Prop} {e : ε} :
    Spec may bad good h (throw e) ↔ bad h e := Iff.rfl

theorem spec_bind {good : History Ans → β → Prop} {p : Fallible Ans ε α} {f : α → Fallible Ans ε β} :
    Spec may bad good h (p >>= f) ↔
      Spec may bad (fun h v => Spec may bad good h (f v)) h p := by
  unfold Spec
  rw [ExceptT.run_bind, Prog.spec_bind]
  constructor <;> refine Prog.spec_mono (fun _ _ allowed => allowed) ?_ <;>
    (intro h r met; cases r <;> exact met)

theorem spec_map {good : History Ans → β → Prop} {p : Fallible Ans ε α} {f : α → β} :
    Spec may bad good h (f <$> p) ↔ Spec may bad (fun h v => good h (f v)) h p := by
  rw [← bind_pure_comp, spec_bind]
  rfl

theorem spec_mono {good good' : History Ans → α → Prop} {p : Fallible Ans ε α}
    (implied : ∀ h v, good h v → good' h v) (spec : Spec may bad good h p) :
    Spec may bad good' h p :=
  Prog.spec_mono (fun _ _ allowed => allowed)
    (fun h r met => by cases r with
      | ok v => exact implied h v met
      | error e => exact met) spec

/-- What the first part of a program has established, and further exchanges keep, holds when the
whole program succeeds. -/
theorem spec_guard {inv : History Ans → Prop} (kept : ∀ h e, inv h → inv (e :: h))
    {p : Fallible Ans ε α} {f : α → Fallible Ans ε β}
    (first : Spec (fun _ _ => True) (fun _ _ => True) (fun h _ => inv h) h p) :
    Spec (fun _ _ => True) (fun _ _ => True) (fun h _ => inv h) h (p >>= f) := by
  refine spec_bind.mpr (spec_mono (fun h v holds => ?_) first)
  refine Prog.spec_mono (fun _ _ allowed => allowed) (fun h r met => ?_)
    (Prog.spec_keeps kept holds (f v).run)
  cases r with
  | ok w => exact met
  | error e => trivial

/-- `Prog.embed` of a program that may stop early. -/
def embed {Act' : Type} {Ans' : Act' → Type} (f : Act → Act') (g : ∀ x, Ans' (f x) → Ans x)
    (p : Fallible Ans ε α) : Fallible Ans' ε α := ExceptT.mk (p.run.embed f g)

theorem embed_bind {Act' : Type} {Ans' : Act' → Type} {f : Act → Act'}
    {g : ∀ x, Ans' (f x) → Ans x} (p : Fallible Ans ε α) (q : α → Fallible Ans ε β) :
    embed f g (p >>= q) = embed f g p >>= fun v => embed f g (q v) := by
  apply ExceptT.ext
  simp only [embed, ExceptT.run_mk, ExceptT.run_bind, Prog.embed_bind]
  congr 1
  funext r
  cases r <;> rfl

end Fallible

end PasswordManager.Interaction
