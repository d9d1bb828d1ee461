import PasswordManager.Interaction.Machine

/-!
# Linearization points

A run of a `System` as operations on an abstract object. A marking says at which actions an
operation takes effect; every other action has to leave the object as it is.
-/

namespace PasswordManager.Interaction

variable {Act : Type} {Ans : Act → Type} {Req Res σ ι Op Out α : Type}

/-- An operation that took effect, with the request that asked for it and its result. -/
structure Point (Op Out : Type) where
  rid : Nat
  op : Op
  out : Out
  deriving DecidableEq

/-- The operations, newest first, lead the sequential object from the first state to the last. -/
inductive Legal (step : Op → α → Option (Out × α)) (init : α) : List (Point Op Out) → α → Prop where
  | nil : Legal step init [] init
  | cons {points a b p} (before : Legal step init points a) (done : step p.op a = some (p.out, b)) :
      Legal step init (p :: points) b

/-- A part of the object that only some of the operations concern, and which is all that these look
at, has a legal history of its own. -/
theorem Legal.project {β : Type} {step : Op → α → Option (Out × α)} {step' : Op → β → Option (Out × β)}
    {view : α → β} {mine : Op → Bool} {init a : α} {points : List (Point Op Out)}
    (own : ∀ {op a out b}, mine op = true → step op a = some (out, b) → step' op (view a) = some (out, view b))
    (other : ∀ {op a out b}, mine op = false → step op a = some (out, b) → view b = view a)
    (legal : Legal step init points a) :
    Legal step' (view init) (points.filter fun p => mine p.op) (view a) := by
  induction legal with
  | nil => exact .nil
  | @cons points a b p before done ih =>
    cases kind : mine p.op with
    | true =>
      have kept : (p :: points).filter (fun p => mine p.op) = p :: points.filter fun p => mine p.op :=
        List.filter_cons_of_pos kind
      rw [kept]
      exact .cons ih (own kind done)
    | false =>
      have dropped : (p :: points).filter (fun p => mine p.op) = points.filter fun p => mine p.op :=
        List.filter_cons_of_neg (by simp [kind])
      rw [dropped, other kind done]
      exact ih

variable (mark : Req → History Ans → Exchange Ans → σ → Option (Op × Out))

/-- The operation that takes effect at the event, after the older events. -/
def pointAt (older : Trace Ans Req Res σ) : Event Ans Req Res σ → Option (Point Op Out)
  | .act rid req e pre _ => (mark req (own rid older) e pre).map fun done => ⟨rid, done.1, done.2⟩
  | _ => none

/-- The operations of a run, newest first. -/
def points : Trace Ans Req Res σ → List (Point Op Out)
  | [] => []
  | e :: older => (pointAt mark older e).toList ++ points older

variable {mark} {tr newer older : Trace Ans Req Res σ} {w : σ} {p p' : Point Op Out}

theorem pointAt_some {e : Event Ans Req Res σ} : pointAt mark older e = some p ↔
    ∃ req x pre post, e = .act p.rid req x pre post ∧
      mark req (own p.rid older) x pre = some (p.op, p.out) := by
  constructor
  · intro found
    cases e with
    | act rid req x pre post =>
      obtain ⟨⟨op, out⟩, marked, rfl⟩ := Option.map_eq_some_iff.mp found
      exact ⟨req, x, pre, post, rfl, marked⟩
    | _ => cases found
  · rintro ⟨req, x, pre, post, rfl, marked⟩
    exact Option.map_eq_some_iff.mpr ⟨_, marked, rfl⟩

theorem points_none {e : Event Ans Req Res σ} (found : pointAt mark older e = none) :
    points mark (e :: older) = points mark older := by
  rw [points, found]
  rfl

theorem points_some {e : Event Ans Req Res σ} (found : pointAt mark older e = some p) :
    points mark (e :: older) = p :: points mark older := by
  rw [points, found]
  rfl

/-- What has taken effect stays, in its place. -/
theorem points_suffix (mark : Req → History Ans → Exchange Ans → σ → Option (Op × Out))
    (newer older : Trace Ans Req Res σ) :
    points mark older <:+ points mark (newer ++ older) := by
  induction newer with
  | nil => exact List.suffix_rfl
  | cons e newer ih => exact ih.trans (List.suffix_append _ _)

theorem mem_points : p ∈ points mark tr ↔ ∃ newer older req x pre post,
    tr = newer ++ .act p.rid req x pre post :: older ∧
      mark req (own p.rid older) x pre = some (p.op, p.out) := by
  constructor
  · intro member
    induction tr with
    | nil => cases member
    | cons e tr ih =>
      rcases List.mem_append.mp member with here | before
      · obtain ⟨req, x, pre, post, rfl, marked⟩ := pointAt_some.mp (Option.mem_toList.mp here)
        exact ⟨[], tr, req, x, pre, post, rfl, marked⟩
      · obtain ⟨newer, older, req, x, pre, post, rfl, marked⟩ := ih before
        exact ⟨e :: newer, older, req, x, pre, post, rfl, marked⟩
  · rintro ⟨newer, older, req, x, pre, post, rfl, marked⟩
    have here : p ∈ points mark (.act p.rid req x pre post :: older) :=
      List.mem_append_left _ (Option.mem_toList.mpr (pointAt_some.mpr ⟨req, x, pre, post, rfl, marked⟩))
    exact (points_suffix mark newer _).mem here

/-- The event of a point. -/
theorem points_performed (member : p ∈ points mark tr) :
    ∃ req x pre post, .act p.rid req x pre post ∈ tr := by
  obtain ⟨newer, older, req, x, pre, post, rfl, -⟩ := mem_points.mp member
  exact ⟨req, x, pre, post, by simp⟩

namespace System

variable {S : System Ans Req Res σ ι}
variable {may : Req → History Ans → Act → Prop} {post : Req → History Ans → Res → Prop}

/-- An operation of a request that was answered before another request was started takes effect
before those of the other request. -/
theorem Traced.points_ordered {rid : Nat} {req req' : Req} {res : Res}
    (traced : S.Traced may post (newer ++ .reply rid req res :: older) w) (answered : p.rid = rid)
    (started : .start p'.rid req' ∈ newer)
    (one : p ∈ points mark (newer ++ .reply rid req res :: older))
    (two : p' ∈ points mark (newer ++ .reply rid req res :: older)) :
    [p', p].Sublist (points mark (newer ++ .reply rid req res :: older)) := by
  subst answered
  obtain ⟨recent, split⟩ := points_suffix mark newer (.reply p.rid req res :: older)
  have past : p ∈ points mark (.reply p.rid req res :: older) := by
    obtain ⟨later, before, req₁, x, pre, after, places, marked⟩ := mem_points.mp one
    rcases places_ordered places rfl with ⟨same, -⟩ | ⟨middle, rfl⟩ | ⟨middle, rfl⟩
    · cases same
    · -- An answered request acts no more.
      rw [places] at traced
      obtain ⟨v, traced⟩ := traced.suffix
      exact absurd (by simp) (traced.act_live.2 req res)
    · exact mem_points.mpr ⟨_ :: middle, before, req₁, x, pre, after, rfl, marked⟩
  have next : p' ∈ recent := by
    rw [← split] at two
    refine (List.mem_append.mp two).resolve_right fun early => ?_
    obtain ⟨req₁, x, pre, after, member⟩ := points_performed early
    exact traced.unused started _ member rfl
  rw [← split]
  exact (List.singleton_sublist.mpr next).append (List.singleton_sublist.mpr past)

/-- A request whose program marks at most one of its actions has at most one operation. -/
theorem Traced.points_once (marked : Req → Act → Prop)
    (only : ∀ {req h x pre done}, mark req h x pre = some done → marked req x.action)
    (exclusive : ∀ req h x, may req h x → marked req x → ∀ e ∈ h, ¬marked req e.action)
    (traced : S.Traced may post tr w) : ((points mark tr).map (·.rid)).Nodup := by
  induction traced with
  | nil => exact List.nodup_nil
  | start _ _ _ _ ih => exact ih
  | reply _ _ _ _ _ _ ih => exact ih
  | background _ _ moved => cases moved
  | @act tr w rid req x choice traced live justified _ ih =>
    cases found : pointAt mark tr (S.machine.event rid req choice w x) with
    | none =>
      rw [points_none found]
      exact ih
    | some q =>
      obtain ⟨req₁, x₁, pre, after, same, here⟩ := pointAt_some.mp found
      obtain ⟨rfl, rfl, rfl, rfl, -⟩ := Event.act.inj same
      rw [points_some found, List.map_cons, List.nodup_cons]
      refine ⟨fun again => ?_, ih⟩
      obtain ⟨q', member, rid⟩ := List.mem_map.mp again
      obtain ⟨newer, older, req₂, y, pre', post', rfl, there⟩ := mem_points.mp member
      rw [rid] at there traced live justified
      have performed : .act q.rid req₂ y pre' post' ∈ newer ++ .act q.rid req₂ y pre' post' :: older := by
        simp
      obtain rfl := traced.start_unique (traced.started performed) live.1
      refine exclusive _ _ _ justified (only here) y ?_ (only there)
      exact mem_own.mpr ⟨req₂, pre', post', by simp⟩

/-- If every action is a point whose operation does to the object what the action does to the
world, or leaves the object as it is, then the operations of a run are legal. -/
theorem Traced.points_legal {step : Op → α → Option (Out × α)} {view : σ → α}
    (one : ∀ {tr rid req e pre after}, S.Traced may post (.act rid req e pre after :: tr) after →
      (∀ done, mark req (own rid tr) e pre = some done →
        step done.1 (view pre) = some (done.2, view after)) ∧
      (mark req (own rid tr) e pre = none → view after = view pre))
    (traced : S.Traced may post tr w) : Legal step (view S.initial) (points mark tr) (view w) := by
  induction traced with
  | nil => exact .nil
  | start _ _ _ _ ih => exact ih
  | reply _ _ _ _ _ _ ih => exact ih
  | background _ _ moved => cases moved
  | @act tr w rid req x choice traced live justified _ ih =>
    have whole : S.Traced may post (S.machine.event rid req choice w x :: tr) (S.answer choice w x).2 :=
      .act rid req x choice traced live justified rfl
    obtain ⟨performed, framed⟩ := one whole
    cases found : pointAt mark tr (S.machine.event rid req choice w x) with
    | none =>
      rw [framed (Option.map_eq_none_iff.mp found), points_none found]
      exact ih
    | some q =>
      obtain ⟨req₁, x₁, pre, after, same, here⟩ := pointAt_some.mp found
      obtain ⟨rfl, rfl, rfl, rfl, -⟩ := Event.act.inj same
      rw [points_some found]
      exact .cons ih (performed _ here)

end System

end PasswordManager.Interaction
