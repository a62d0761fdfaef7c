/-
# Proofs.Visits -- what visitors see

A container is gone through by calling a visitor, which has a state of its own and may stop.  What
it was called with is noted down beside its state, which changes nothing it does (`noting`), so what
a visitor sees (`Tour.shown`) is read off the calls alone.

`Tour.Visits` says that the things of a list are shown once each, in whatever order: all of them to
a visitor that never stops, and the first `k` of that order to one that stops at its `k`th visit.
Every `visit` of rows is such a tour (`Tour.visits_of_eq_visit`).
-/
import DynamicMessage.Visit
import Mathlib.Data.List.Perm.Subperm

namespace DynamicMessage

set_option autoImplicit false

/-- A way to go through things of a type, calling a visitor with each. -/
abbrev Tour (α : Type) : Type 1 := {σ : Type} → (α → σ → ForInStep σ) → σ → σ

section

variable {α σ : Type}

/-- The visitor that does what another one does, and notes down what it is shown. -/
def noting (visitor : α → σ → ForInStep σ) (a : α) (noted : σ × List α) :
    ForInStep (σ × List α) :=
  match visitor a noted.1 with
  | .done s => .done (s, noted.2 ++ [a])
  | .yield s => .yield (s, noted.2 ++ [a])

/-- What a tour shows a visitor, in order. -/
def Tour.shown (tour : Tour α) (visitor : α → σ → ForInStep σ) (s : σ) : List α :=
  (tour (noting visitor) (s, [])).2

/-- The visitor always wants more. -/
def NeverStops (visitor : α → σ → ForInStep σ) : Prop := ∀ a s, ∃ s', visitor a s = .yield s'

/-- The visitor wants more until it is called for the `k`th time, and stops there. -/
def StopsAt (visitor : α → σ → ForInStep σ) : Nat → σ → Prop
  | 0, _ => False
  | 1, s => ∀ a, ∃ s', visitor a s = .done s'
  | k + 2, s => ∀ a, ∃ s', visitor a s = .yield s' ∧ StopsAt visitor (k + 1) s'

/-- The tour shows the things of a list, each as often as it is listed, in an order of its own. -/
structure Tour.Visits (tour : Tour α) (things : List α) : Prop where
  /-- A visitor that never stops sees everything. -/
  all : ∀ {σ : Type} (visitor : α → σ → ForInStep σ) (s : σ), NeverStops visitor →
    (tour.shown visitor s).Perm things
  /-- A visitor that stops at its `k`th visit is called `k` times, if there is so much to see. -/
  stopped : ∀ {σ : Type} (visitor : α → σ → ForInStep σ) (s : σ) (k : Nat), StopsAt visitor k s →
    (tour.shown visitor s).length = min k things.length
  /-- Whatever a visitor does, it sees nothing else, and nothing again. -/
  part : ∀ {σ : Type} (visitor : α → σ → ForInStep σ) (s : σ),
    (tour.shown visitor s).Subperm things
  /-- Noting down what is shown does not change where a visitor ends. -/
  unaffected : ∀ {σ : Type} (visitor : α → σ → ForInStep σ) (s : σ),
    (tour (noting visitor) (s, [])).1 = tour visitor s

/-- The rows a visitor is shown until it stops. -/
def watched (visitor : α → σ → ForInStep σ) : σ → List α → List α
  | _, [] => []
  | s, a :: rest =>
    match visitor a s with
    | .done _ => [a]
    | .yield s => a :: watched visitor s rest

/-- The notes of a visitor of rows are the rows it is shown. -/
theorem visit_noting (visitor : α → σ → ForInStep σ) (s : σ) (seen rows : List α) :
    visit (noting visitor) (s, seen) rows =
      (visit visitor s rows, seen ++ watched visitor s rows) := by
  induction rows generalizing s seen with
  | nil => simp [visit, watched]
  | cons a rest ih =>
    cases answer : visitor a s with
    | done s' => simp only [visit, noting, watched, answer]
    | yield s' => simp only [visit, noting, watched, answer, ih, List.append_assoc,
        List.singleton_append]

/-- What is shown is a beginning of the rows. -/
theorem isPrefix_watched (visitor : α → σ → ForInStep σ) (s : σ) (rows : List α) :
    watched visitor s rows <+: rows := by
  induction rows generalizing s with
  | nil => exact List.prefix_refl []
  | cons a rest ih =>
    cases answer : visitor a s with
    | done s' =>
      simp only [watched, answer]
      exact ⟨rest, rfl⟩
    | yield s' =>
      simp only [watched, answer]
      exact (List.prefix_cons_inj a).2 (ih s')

theorem watched_of_neverStops {visitor : α → σ → ForInStep σ} (never : NeverStops visitor) (s : σ)
    (rows : List α) : watched visitor s rows = rows := by
  induction rows generalizing s with
  | nil => rfl
  | cons a rest ih =>
    obtain ⟨s', more⟩ := never a s
    simp only [watched, more, ih]

/-- A visitor that stops at its `k`th visit is shown the first `k` rows. -/
theorem watched_of_stopsAt {visitor : α → σ → ForInStep σ} {k : Nat} {s : σ}
    (stops : StopsAt visitor k s) (rows : List α) : watched visitor s rows = rows.take k := by
  induction rows generalizing k s with
  | nil => simp [watched]
  | cons a rest ih =>
    match k with
    | 0 => cases stops
    | 1 =>
      obtain ⟨s', stopped⟩ := stops a
      simp only [watched, stopped, List.take_succ_cons, List.take_zero]
    | k + 2 =>
      obtain ⟨s', more, later⟩ := stops a
      simp only [watched, more, ih later, List.take_succ_cons]

end

/-- A tour that visits rows shows the things that are in the rows. -/
theorem Tour.visits_of_eq_visit {α : Type} {tour : Tour α} {rows things : List α}
    (perm : rows.Perm things)
    (visits : ∀ {σ : Type} (visitor : α → σ → ForInStep σ) (s : σ),
      tour visitor s = visit visitor s rows) : tour.Visits things := by
  have shown_eq {σ : Type} (visitor : α → σ → ForInStep σ) (s : σ) :
      tour.shown visitor s = watched visitor s rows := by
    rw [Tour.shown, visits, visit_noting, List.nil_append]
  constructor
  · intro σ visitor s never
    rwa [shown_eq, watched_of_neverStops never]
  · intro σ visitor s k stops
    rw [shown_eq, watched_of_stopsAt stops, List.length_take, perm.length_eq]
  · intro σ visitor s
    rw [shown_eq]
    exact (isPrefix_watched visitor s rows).sublist.subperm.trans perm.subperm
  · intro σ visitor s
    rw [visits, visits, visit_noting]

end DynamicMessage
