import Kaleidoscope.Proofs.Isolation
import Kaleidoscope.Proofs.Places

/-!
Locations, names and numbers are data. A run over tokens of the same shapes takes the same course,
and what relates the data of the tokens relates the data of the events (`Parallel` with nothing
behind the window). Two relations are of interest by themselves. Equality as numbers says that a run
does not tell tokens apart that are equal (`Likeness.equated`). A function on the data, seen as a
relation, says that new data for the tokens are new data for the events (`Renaming`).
-/

namespace Kaleidoscope

theorem beq_iff_forall₂ {α : Type} [BEq α] {xs ys : List α} :
    (xs == ys) = true ↔ List.Forall₂ (fun x y => (x == y) = true) xs ys := by
  induction xs generalizing ys with
  | nil => cases ys <;> simp
  | cons x xs ih => cases ys <;> simp [ih]

theorem Diagnostic.eq_iff {κ : Type} {d d' : Diagnostic κ} :
    d = d' ↔ d.location = d'.location ∧ d.cause = d'.cause := by
  cases d
  cases d'
  simp

/-! ### Equal tokens -/

/-- No difference but between numbers that are equal as numbers. -/
def Likeness.equated : Likeness where
  location := Eq
  name := Eq
  value v w := (v == w) = true
  anonymous := rfl

theorem Token.Kind.like_of_beq {k k' : Kind} (h : (k == k') = true) :
    k.Like Likeness.equated k' := by
  cases k <;> cases k'
  case endOfInput.endOfInput => exact .endOfInput
  case defWord.defWord => exact .defWord
  case externWord.externWord => exact .externWord
  case identifier.identifier x y =>
    have hxy : (x == y) = true := h
    exact .identifier (eq_of_beq hxy)
  case number.number v w => exact .number h
  case char.char x y =>
    have hxy : (x == y) = true := h
    rw [eq_of_beq hxy]
    exact .char y
  all_goals contradiction

theorem Token.like_of_beq {t u : Token} (h : (t == u) = true) : t.Like Likeness.equated u := by
  obtain ⟨hk, hl⟩ := Bool.and_eq_true_iff.1 h
  exact ⟨Kind.like_of_beq hk, eq_of_beq hl⟩

theorem Expr.equalAll_map {arguments : List (Expr × Expr)}
    (h : ∀ a ∈ arguments, a.1.equal a.2 = true) :
    equalAll (arguments.map (·.1)) (arguments.map (·.2)) = true := by
  induction arguments with
  | nil => rfl
  | cons a arguments ih =>
      obtain ⟨ha, h⟩ := List.forall_mem_cons.1 h
      exact Bool.and_eq_true_iff.2 ⟨ha, ih h⟩

theorem Expr.Like.beq {e e' : Expr} (h : e.Like Likeness.equated e') : (e == e') = true := by
  change e.equal e' = true
  induction h with
  | number hl hv =>
      obtain rfl : _ = _ := hl
      exact Bool.and_eq_true_iff.2 ⟨by simp, hv⟩
  | reference hl hx =>
      obtain rfl : _ = _ := hl
      obtain rfl : _ = _ := hx
      simp [equal]
  | binary hl _ _ ih ih' =>
      obtain rfl : _ = _ := hl
      simp [equal, ih, ih']
  | call hl hx _ ih =>
      obtain rfl : _ = _ := hl
      obtain rfl : _ = _ := hx
      simp [equal, equalAll_map ih]

theorem Prototype.Like.eq_of_equated {p q : Prototype} (h : p.Like Likeness.equated q) : p = q :=
  Prototype.Like.eq ⟨h.location, h.name, h.parameters⟩

theorem Node.Like.beq {n n' : Node} (h : n.Like Likeness.equated n') : (n == n') = true := by
  cases h with
  | external hp =>
      rw [hp.eq_of_equated]
      exact beq_self_eq_true (α := Prototype) _
  | function hf =>
      exact Bool.and_eq_true_iff.2 ⟨beq_iff_eq.2 hf.prototype.eq_of_equated, hf.body.beq⟩

/-! ### New data -/

/-- Other locations, names and numbers for those of a program. -/
structure Renaming where
  location : Location → Location
  name : String → String
  value : Binary64 → Binary64
  anonymous : name "" = ""

variable (f : Renaming)

def Renaming.likeness : Likeness where
  location l l' := f.location l = l'
  name x y := f.name x = y
  value v w := f.value v = w
  anonymous := f.anonymous

def Token.Kind.map : Kind → Kind
  | identifier name => identifier (f.name name)
  | number value => number (f.value value)
  | k => k

def Token.map (t : Token) : Token :=
  ⟨t.kind.map f, f.location t.location⟩

def Token.Stream.map (s : Stream) : Stream :=
  ⟨s.body.map (Token.map f), f.location s.finish⟩

mutual

def Expr.map : Expr → Expr
  | number l v => number (f.location l) (f.value v)
  | reference l x => reference (f.location l) (f.name x)
  | binary l op a b => binary (f.location l) op a.map b.map
  | call l x es => call (f.location l) (f.name x) (mapAll es)

def Expr.mapAll : List Expr → List Expr
  | [] => []
  | e :: es => e.map :: mapAll es

end

def Prototype.map (p : Prototype) : Prototype :=
  ⟨f.location p.location, f.name p.name, p.parameters.map f.name⟩

def Function.map (g : Function) : Function :=
  ⟨g.prototype.map f, g.body.map f⟩

def Node.map : Node → Node
  | external p => external (p.map f)
  | function g => function (g.map f)

def Event.map : Event → Event
  | node n => node (n.map f)
  | fault d => fault ⟨f.location d.location, d.cause⟩

variable {f}

theorem Token.like_map (t : Token) : t.Like f.likeness (t.map f) := by
  refine ⟨?_, rfl⟩
  show t.kind.Like f.likeness (t.kind.map f)
  cases t.kind with
  | identifier x => exact .identifier rfl
  | number v => exact .number rfl
  | endOfInput => exact .endOfInput
  | defWord => exact .defWord
  | externWord => exact .externWord
  | char c => exact .char c

theorem Expr.mapAll_eq (es : List Expr) : mapAll f es = es.map (Expr.map f) := by
  induction es with
  | nil => rfl
  | cons e es ih => rw [mapAll, ih, List.map_cons]

theorem Expr.Like.map_eq {e e' : Expr} (h : e.Like f.likeness e') : e.map f = e' := by
  induction h with
  | number hl hv =>
      obtain rfl : _ = _ := hl
      obtain rfl : _ = _ := hv
      rfl
  | reference hl hx =>
      obtain rfl : _ = _ := hl
      obtain rfl : _ = _ := hx
      rfl
  | binary hl _ _ ih ih' =>
      obtain rfl : _ = _ := hl
      rw [Expr.map, ih, ih']
  | call hl hx _ ih =>
      obtain rfl : _ = _ := hl
      obtain rfl : _ = _ := hx
      rw [Expr.map, mapAll_eq, List.map_map]
      exact congrArg _ (List.map_congr_left ih)

theorem Prototype.Like.map_eq {p q : Prototype} (h : p.Like f.likeness q) : p.map f = q := by
  obtain ⟨l, x, ps⟩ := q
  obtain rfl : _ = _ := h.location
  obtain rfl : _ = _ := h.name
  obtain rfl : p.parameters.map f.name = ps :=
    List.forall₂_eq_eq_eq ▸ List.forall₂_map_left_iff.2 h.parameters
  rfl

theorem Function.Like.map_eq {g h : Function} (hl : g.Like f.likeness h) : g.map f = h := by
  rw [Function.map, hl.prototype.map_eq, hl.body.map_eq]

theorem Event.Like.map_eq {e e' : Event} (h : e.Like f.likeness e') : e.map f = e' := by
  cases h with
  | node hn =>
      cases hn with
      | external hp => rw [Event.map, Node.map, hp.map_eq]
      | function hg => rw [Event.map, Node.map, hg.map_eq]
  | @fault d d' hl hc =>
      obtain ⟨l, cause⟩ := d'
      obtain rfl : _ = _ := hl
      obtain rfl : _ = _ := hc
      rfl

theorem Event.map_eq_of_forall₂_like {es es' : List Event}
    (h : List.Forall₂ (Event.Like f.likeness) es es') : es.map (Event.map f) = es' := by
  have h := List.forall₂_map_left_iff.2 (h.imp fun _ _ => Event.Like.map_eq)
  exact List.forall₂_eq_eq_eq ▸ h

/-! ### Runs -/

namespace Run

variable {R : Likeness} {r r' : Run}

theorem nodes_like (h : List.Forall₂ (Event.Like R) r.events r'.events) :
    List.Forall₂ (Node.Like R) r.nodes r'.nodes := by
  refine List.rel_filterMap (R := Event.Like R) ?_ h
  intro e e' he
  cases he with
  | node hn => exact .some hn
  | fault _ _ => exact .none

theorem faults_like (h : List.Forall₂ (Event.Like R) r.events r'.events) :
    List.Forall₂ (fun d d' => R.location d.location d'.location ∧ d.cause = d'.cause)
      r.faults r'.faults := by
  refine List.rel_filterMap (R := Event.Like R) ?_ h
  intro e e' he
  cases he with
  | node _ => exact .none
  | fault hl hc => exact .some ⟨hl, hc⟩

end Run

namespace Token.Stream

/-- Runs over alike tokens deliver alike events. -/
theorem events_like_of {R : Likeness} {s t : Stream}
    (h : List.Forall₂ (Token.Like R) s.toList t.toList) :
    List.Forall₂ (Event.Like R) s.run.events t.run.events := by
  let w : Window := { R with behind := [], behind' := [] }
  obtain ⟨x, xs, hs⟩ : ∃ x xs, s.toList = x :: xs := List.exists_cons_of_ne_nil (by simp [toList])
  obtain ⟨y, ys, ht⟩ : ∃ y ys, t.toList = y :: ys := List.exists_cons_of_ne_nil (by simp [toList])
  rw [hs, ht] at h
  obtain ⟨hxy, h⟩ := List.forall₂_cons.1 h
  have htracks : (Cursor.start s).Tracks w (Cursor.start t) :=
    ⟨rfl, x, y, xs, ys, hxy, h, by rw [List.append_nil, ← hs]; rfl,
      by rw [List.append_nil, ← ht]; rfl⟩
  exact Cursor.events_like (some nestingLimit) htracks rfl

theorem toList_map (f : Renaming) (s : Stream) : (s.map f).toList = s.toList.map (Token.map f) := by
  simp [toList, map, Token.map, Kind.map]

theorem forall₂_like_of_beq {s t : Stream} (h : (s.toList == t.toList) = true) :
    List.Forall₂ (Token.Like Likeness.equated) s.toList t.toList :=
  (beq_iff_forall₂.1 h).imp fun _ _ => Token.like_of_beq

/-- A run is parametric in the data of its tokens. Over tokens of the same shapes whose data are
related in any way it delivers events of the same shapes whose data are related in this way, and as
many faults. So equal tokens give equal nodes and faults, and to rename or to move the tokens is to
rename or to move what the run delivers. -/
theorem run_parametric (s t : Stream) :
    (∀ R : Likeness, List.Forall₂ (Token.Like R) s.toList t.toList →
      List.Forall₂ (Event.Like R) s.run.events t.run.events ∧
        s.run.faults.length = t.run.faults.length) ∧
    ((s.toList == t.toList) = true →
      (s.run.nodes == t.run.nodes) = true ∧ s.run.faults = t.run.faults) ∧
    ∀ f : Renaming, (run (s.map f)).events = s.run.events.map (Event.map f) := by
  refine ⟨fun R h => ?_, fun h => ?_, fun f => ?_⟩
  · have hevents := events_like_of h
    exact ⟨hevents, (Run.faults_like hevents).length_eq⟩
  · have hevents := events_like_of (forall₂_like_of_beq h)
    refine ⟨beq_iff_forall₂.2 ((Run.nodes_like hevents).imp fun _ _ => Node.Like.beq), ?_⟩
    have hfaults := (Run.faults_like hevents).imp fun _ _ => Diagnostic.eq_iff.2
    exact List.forall₂_eq_eq_eq ▸ hfaults
  · have hlike : List.Forall₂ (Token.Like f.likeness) s.toList (s.map f).toList := by
      rw [toList_map, List.forall₂_map_right_iff]
      exact List.forall₂_same.2 fun t _ => t.like_map
    exact (Event.map_eq_of_forall₂_like (events_like_of hlike)).symm

/-- The tokens of a call with one number. -/
def callOf (value : Binary64) : Stream :=
  ofKinds [.identifier "f", .char '(', .number value, .char ')']

/-- The two zeros are equal numbers, so the calls with them are equal nodes. -/
theorem run_parametric_zeros :
    ((callOf (.ofBits 0)).toList == (callOf (.ofBits (Nat.pow 2 63))).toList) = true ∧
      List.Forall₂ (Event.Like Likeness.equated) (callOf (.ofBits 0)).run.events
        (callOf (.ofBits (Nat.pow 2 63))).run.events ∧
      ((callOf (.ofBits 0)).run.nodes == (callOf (.ofBits (Nat.pow 2 63))).run.nodes) = true := by
  have h : ((callOf (.ofBits 0)).toList == (callOf (.ofBits (Nat.pow 2 63))).toList) = true := by
    decide
  obtain ⟨hlike, hequal, -⟩ := run_parametric (callOf (.ofBits 0)) (callOf (.ofBits (Nat.pow 2 63)))
  exact ⟨h, (hlike _ (forall₂_like_of_beq h)).1, (hequal h).1⟩

end Token.Stream

end Kaleidoscope
