import PasswordManager.Interaction.Run

/-!
# Two runs of one program

A relational program logic: `Alike` says that a program, run alone from two related worlds,
ends with the same result in worlds that are related again.
-/

namespace PasswordManager.Interaction.Fallible

variable {Act : Type} {Ans : Act → Type} {α β ε σ ι : Type}
  (answer : ι → σ → (x : Act) → Ans x × σ)

/-- From worlds related by `pre` the program ends in both with one value in worlds related by
`good`, or in both with one error in worlds related by `bad`. -/
def Alike (pre : (Nat → ι) × σ → (Nat → ι) × σ → Prop)
    (good : α → (Nat → ι) × σ → (Nat → ι) × σ → Prop) (bad : (Nat → ι) × σ → (Nat → ι) × σ → Prop)
    (p : Fallible Ans ε α) : Prop :=
  ∀ w w', pre w w' →
    (∃ v u u', exec answer p w = (.ok v, u) ∧ exec answer p w' = (.ok v, u') ∧ good v u u') ∨
    ∃ e u u', exec answer p w = (.error e, u) ∧ exec answer p w' = (.error e, u') ∧ bad u u'

/-- What the program returns depends on the choices of the environment only, and it does not
change the state. -/
def Blind (p : Fallible Ans ε α) : Prop :=
  ∀ choices, ∃ r k, ∀ s, exec answer p (choices, s) = (r, fun n => choices (n + k), s)

variable {answer} {pre pre' bad : (Nat → ι) × σ → (Nat → ι) × σ → Prop}
  {good : α → (Nat → ι) × σ → (Nat → ι) × σ → Prop} {p : Fallible Ans ε α}

theorem alike_pure {v : α} (met : ∀ w w', pre w w' → good v w w') :
    Alike answer pre good bad (pure v : Fallible Ans ε α) :=
  fun w w' related => .inl ⟨v, w, w', rfl, rfl, met w w' related⟩

theorem alike_throw {e : ε} (met : ∀ w w', pre w w' → bad w w') :
    Alike answer pre good bad (throw e : Fallible Ans ε α) :=
  fun w w' related => .inr ⟨e, w, w', rfl, rfl, met w w' related⟩

theorem alike_bind (mid : α → (Nat → ι) × σ → (Nat → ι) × σ → Prop)
    {post : β → (Nat → ι) × σ → (Nat → ι) × σ → Prop} {f : α → Fallible Ans ε β}
    (first : Alike answer pre mid bad p) (next : ∀ v, Alike answer (mid v) post bad (f v)) :
    Alike answer pre post bad (p >>= f) := by
  intro w w' related
  rw [exec_bind, exec_bind]
  rcases first w w' related with ⟨v, u, u', left, right, met⟩ | ⟨e, u, u', left, right, met⟩
  · rw [left, right]
    exact next v u u' met
  · rw [left, right]
    exact .inr ⟨e, u, u', rfl, rfl, met⟩

theorem alike_map {post : β → (Nat → ι) × σ → (Nat → ι) × σ → Prop} {f : α → β}
    (alike : Alike answer pre (fun v => post (f v)) bad p) : Alike answer pre post bad (f <$> p) := by
  rw [← bind_pure_comp]
  exact alike_bind _ alike fun v => alike_pure fun _ _ => id

theorem alike_mono {good' : α → (Nat → ι) × σ → (Nat → ι) × σ → Prop}
    (stronger : ∀ w w', pre' w w' → pre w w') (implied : ∀ v w w', good v w w' → good' v w w')
    (alike : Alike answer pre good bad p) : Alike answer pre' good' bad p := by
  intro w w' related
  rcases alike w w' (stronger w w' related) with ⟨v, u, u', left, right, met⟩ | failed
  · exact .inl ⟨v, u, u', left, right, implied v u u' met⟩
  · exact .inr failed

theorem blind_pure {v : α} : Blind answer (pure v : Fallible Ans ε α) :=
  fun _ => ⟨.ok v, 0, fun _ => rfl⟩

theorem blind_throw {e : ε} : Blind answer (throw e : Fallible Ans ε α) :=
  fun _ => ⟨.error e, 0, fun _ => rfl⟩

theorem blind_bind {f : α → Fallible Ans ε β} (first : Blind answer p)
    (next : ∀ v, Blind answer (f v)) : Blind answer (p >>= f) := by
  intro choices
  obtain ⟨r, k, done⟩ := first choices
  cases r with
  | error e => exact ⟨.error e, k, fun s => by rw [exec_bind, done s]⟩
  | ok v =>
    obtain ⟨r', k', done'⟩ := next v fun n => choices (n + k)
    refine ⟨r', k' + k, fun s => ?_⟩
    rw [exec_bind, done s]
    simp only [done' s, Nat.add_assoc]

/-- A blind program keeps what two worlds with the same choices have in common. -/
theorem blind_alike (blind : Blind answer p) (choices : ∀ w w', pre w w' → w.1 = w'.1)
    (shift : ∀ k c s s', pre (c, s) (c, s') → pre (fun n => c (n + k), s) (fun n => c (n + k), s'))
    (lost : ∀ w w', pre w w' → bad w w') : Alike answer pre (fun _ => pre) bad p := by
  rintro ⟨c, s⟩ ⟨c', s'⟩ related
  obtain rfl : c = c' := choices _ _ related
  obtain ⟨r, k, done⟩ := blind c
  have later := shift k c s s' related
  cases r with
  | ok v => exact .inl ⟨v, _, _, done s, done s', later⟩
  | error e => exact .inr ⟨e, _, _, done s, done s', lost _ _ later⟩

end PasswordManager.Interaction.Fallible
