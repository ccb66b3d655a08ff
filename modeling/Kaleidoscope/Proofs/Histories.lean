import Kaleidoscope.Session
import Kaleidoscope.Proofs.Lookahead

/-!
Histories of one cursor. Operations come in any order and succeed or fail, and places that were kept
can be gone back to. Through all of this the cursor stands at a place up to the first end of the
input, outside of all expressions (`WellPlaced`), so that what an operation does is determined by
the index where it starts: a failure leaves nothing behind but the place where it happened.
-/

namespace Kaleidoscope

namespace Token.Stream

variable {s t : Stream} {c c' : Cursor} {i : Nat}

/-- A place that a cursor can come to. -/
def Place (s : Stream) (c : Cursor) : Prop :=
  ∃ i, i ≤ s.firstEnd ∧ c = s.cursorAt i

/-- A fresh cursor, moved on so many times. -/
def advanced (s : Stream) : Nat → Cursor
  | 0 => .start s
  | i + 1 => (s.advanced i).next

theorem Place.reaches (h : s.Place c) (hr : c.Reaches c') : s.Place c' := by
  obtain ⟨i, hi, rfl⟩ := h
  obtain ⟨n, hn, rfl⟩ := exists_cursorAt_of_reaches hi hr
  exact ⟨i + n, hn, rfl⟩

theorem Place.eq (h : s.Place c) : c = s.cursorAt c.index := by
  obtain ⟨i, -, rfl⟩ := h
  rfl

theorem Place.index_le (h : s.Place c) : c.index ≤ s.firstEnd := by
  obtain ⟨i, hi, rfl⟩ := h
  exact hi

theorem advanced_eq (h : i ≤ s.firstEnd) : s.advanced i = s.cursorAt i := by
  induction i with
  | zero => rfl
  | succ i ih => rw [advanced, ih (by omega), next_cursorAt h]

/-- The first end of the input is found among the tokens up to it. -/
theorem firstEnd_eq_of_take
    (h : t.toList.take (s.firstEnd + 1) = s.toList.take (s.firstEnd + 1)) :
    t.firstEnd = s.firstEnd := by
  have h := congrArg (List.findIdx (·.kind.isEnd)) h
  rw [List.findIdx_take, List.findIdx_take] at h
  change min _ t.firstEnd = min _ s.firstEnd at h
  omega

/-- Streams that are the same up to the first end of the input have the same token at each place. -/
theorem current_cursorAt_of_take
    (h : t.toList.take (s.firstEnd + 1) = s.toList.take (s.firstEnd + 1)) (hi : i ≤ s.firstEnd) :
    (t.cursorAt i).current = (s.cursorAt i).current := by
  have hs := current_cursorAt (Nat.le_trans hi s.firstEnd_le)
  have ht := current_cursorAt (Nat.le_trans (firstEnd_eq_of_take h ▸ hi) t.firstEnd_le)
  rw [← List.getElem?_take_of_lt (Nat.lt_succ_of_le hi)] at hs ht
  rw [h, hs] at ht
  exact (Option.some.inj ht).symm

end Token.Stream

namespace Cursor

variable {limit : Option Nat} {c c' : Cursor}

theorem Reaches.index_le (h : c.Reaches c') : c.index ≤ c'.index := by
  obtain ⟨used, -, -, he⟩ := h
  rw [he]
  exact Nat.le_add_right _ _

theorem Reaches.index_lt (h : c.Reaches c') (hlt : c'.remaining < c.remaining) :
    c.index < c'.index := by
  obtain ⟨used, ha, -, he⟩ := h
  simp only [remaining, ha, List.length_append] at hlt
  rw [he]
  show c.index < c.index + used.length
  omega

theorem index_next (c : Cursor) :
    c.next.index = if c.kind.isEnd then c.index else c.index + 1 := by
  unfold next atEnd
  split <;> rfl

theorem before_readItem (h : c.kind ≠ .endOfInput) :
    (c.readItem limit).Before c.remaining := by
  cases hread : c.readItem limit with
  | error f => trivial
  | ok a => exact readItem_lt hread h

/-- Whatever is read inside of an expression ends inside of it, so leaving the expression makes up
for having entered it. -/
theorem readExpression_balanced (limit : Option Nat) (c : Cursor) (h : c.full limit = false) :
    ∃ inner : Outcome Expr, inner = ((c.descend.readPrimary limit).andThen fun left c =>
      c.readChain limit 0 left) ∧ c.readExpression limit = inner.ascend ∧
      inner.final.depth = c.depth + 1 := by
  refine ⟨_, rfl, readExpression_room h, ?_⟩
  have hstays := (stays_readPrimary limit c.descend).andThen
    fun left c => stays_readChain limit c 0 left
  exact hstays.moves.final.depth_eq

end Cursor

/-- An operation that reads something; the others look at a token, move by one, or are about the
places kept. -/
def Operation.Reads : Operation → Prop
  | .expression | .prototype | .definition | .external | .bare | .item => True
  | _ => False

namespace Session

/-- The sessions that a fresh cursor leads to. A place that was kept can be gone back to in any
order and any number of times. -/
inductive Reachable (limit : Option Nat) (s : Token.Stream) : Session → Prop
  | start : Reachable limit s (.start s)
  | perform {t : Session} (o : Operation) : Reachable limit s t →
      Reachable limit s (t.perform limit o).2
  | back {t : Session} {c : Cursor} : Reachable limit s t → c ∈ t.saved →
      Reachable limit s { t with cursor := c }

/-- The cursor and all that were kept stand at places of the stream. -/
structure WellPlaced (s : Token.Stream) (t : Session) : Prop where
  cursor : s.Place t.cursor
  saved : ∀ c ∈ t.saved, s.Place c

/-- An operation that reads goes on from where its reader ended. -/
structure ReadsBy {α : Type} (limit : Option Nat) (o : Operation) (read : Cursor → Outcome α)
    (reply : α → Reply) : Prop where
  perform : ∀ t : Session, t.perform limit o = t.goOn reply (read t.cursor)
  moves : ∀ c, (read c).Moves c
  before : ∀ c : Cursor, (o = .item → c.kind ≠ .endOfInput) → (read c).Before c.remaining
  ahead : Cursor.LooksOneAhead read

variable {α : Type} {limit : Option Nat} {s s' : Token.Stream} {t u : Session} {o : Operation}

theorem exists_readsBy (limit : Option Nat) (ho : o.Reads) :
    ∃ (α : Type) (read : Cursor → Outcome α) (reply : α → Reply), ReadsBy limit o read reply := by
  cases o with
  | expression =>
      exact ⟨_, _, _, fun _ => rfl, fun c => (Cursor.stays_readExpression limit c).moves,
        fun c _ => Cursor.before_readExpression limit c, Cursor.looksOneAhead_readExpression limit⟩
  | prototype =>
      exact ⟨_, _, _, fun _ => rfl, fun c => (Cursor.stays_readPrototype c).moves,
        fun c _ => Cursor.before_readPrototype c, Cursor.looksOneAhead_readPrototype⟩
  | definition =>
      exact ⟨_, _, _, fun _ => rfl, fun c => (Cursor.stays_readDefinition limit c).moves,
        fun c _ => Cursor.before_readDefinition limit c, Cursor.looksOneAhead_readDefinition limit⟩
  | external =>
      exact ⟨_, _, _, fun _ => rfl, fun c => (Cursor.stays_readExtern c).moves,
        fun c _ => Cursor.before_readExtern c, Cursor.looksOneAhead_readExtern⟩
  | bare =>
      exact ⟨_, _, _, fun _ => rfl, fun c => (Cursor.stays_readBare limit c).moves,
        fun c _ => Cursor.before_readBare limit c, Cursor.looksOneAhead_readBare limit⟩
  | item =>
      exact ⟨_, _, _, fun _ => rfl, Cursor.moves_readItem limit,
        fun _ h => Cursor.before_readItem (h rfl), Cursor.looksOneAhead_readItem limit⟩
  | _ => contradiction

@[simp] theorem goOn_cursor (t : Session) (reply : α → Reply) (r : Outcome α) :
    (t.goOn reply r).2.cursor = r.final := by
  cases r <;> rfl

@[simp] theorem goOn_saved (t : Session) (reply : α → Reply) (r : Outcome α) :
    (t.goOn reply r).2.saved = t.saved := by
  cases r <;> rfl

theorem goOn_reply {reply : α → Reply} {r r' : Outcome α} (h : r'.result = r.result) :
    (u.goOn reply r').1 = (t.goOn reply r).1 := by
  cases r with
  | error f =>
      cases r' with
      | error f' => rw [goOn, goOn, Except.error.inj h]
      | ok a' => contradiction
  | ok a =>
      cases r' with
      | error f' => contradiction
      | ok a' => rw [goOn, goOn, Except.ok.inj h]

/-! ### Steps -/

/-- No operation but going back moves a cursor back. -/
theorem reaches_perform (ho : o ≠ .restore) :
    t.cursor.Reaches (t.perform limit o).2.cursor := by
  by_cases hr : o.Reads
  · obtain ⟨α, read, reply, h⟩ := exists_readsBy limit hr
    rw [h.perform, goOn_cursor]
    exact (h.moves _).final
  · cases o with
    | next => exact Cursor.reaches_next _
    | current => exact .refl _
    | precedence => exact .refl _
    | save => exact .refl _
    | restore => contradiction
    | _ => exact absurd trivial hr

theorem saved_perform (h : t.WellPlaced s) :
    ∀ c ∈ (t.perform limit o).2.saved, s.Place c := by
  by_cases hr : o.Reads
  · obtain ⟨α, read, reply, hread⟩ := exists_readsBy limit hr
    rw [hread.perform, goOn_saved]
    exact h.saved
  · cases o with
    | save => exact List.forall_mem_cons.2 ⟨h.cursor, h.saved⟩
    | restore =>
        obtain ⟨cursor, saved⟩ := t
        cases saved with
        | nil => exact h.saved
        | cons c saved => exact (List.forall_mem_cons.1 h.saved).2
    | next => exact h.saved
    | current => exact h.saved
    | precedence => exact h.saved
    | _ => exact absurd trivial hr

theorem WellPlaced.perform (h : t.WellPlaced s) (o : Operation) :
    (t.perform limit o).2.WellPlaced s := by
  refine ⟨?_, saved_perform h⟩
  by_cases ho : o = .restore
  · subst ho
    obtain ⟨cursor, saved⟩ := t
    cases saved with
    | nil => exact h.cursor
    | cons c saved => exact h.saved c (by simp)
  · exact h.cursor.reaches (reaches_perform ho)

/-- Wherever a cursor has been, it stands at a place of the stream. -/
theorem Reachable.wellPlaced (h : Reachable limit s t) : t.WellPlaced s := by
  induction h with
  | start => exact ⟨⟨0, Nat.zero_le _, rfl⟩, by simp [Session.start]⟩
  | perform o _ ih => exact ih.perform o
  | back _ hc ih => exact ⟨ih.saved _ hc, ih.saved⟩

/-- A reading that succeeds moves on, if it is not that of an item on the end of the input. -/
theorem index_lt_perform (ho : o.Reads) (hfault : ∀ d, (t.perform limit o).1 ≠ .fault d)
    (hend : o = .item → t.cursor.kind ≠ .endOfInput) :
    t.cursor.index < (t.perform limit o).2.cursor.index := by
  obtain ⟨α, read, reply, h⟩ := exists_readsBy limit ho
  have hmoves := (h.moves t.cursor).final
  have hbefore := h.before t.cursor hend
  rw [h.perform] at hfault ⊢
  rw [goOn_cursor]
  cases hread : read t.cursor with
  | error f =>
      rw [hread] at hfault
      exact absurd rfl (hfault f.diagnostic)
  | ok a =>
      rw [hread] at hmoves hbefore
      exact hmoves.index_lt hbefore

/-- What an operation answers and where it ends depends on the index that it starts from and the
tokens up to the first end of the input, unless it is about the places kept. -/
theorem perform_congr {i : Nat} (hi : i ≤ s.firstEnd) (ht : t.cursor = s.cursorAt i)
    (htake : s'.toList.take (s.firstEnd + 1) = s.toList.take (s.firstEnd + 1))
    (hu : u.cursor = s'.cursorAt i) (hsave : o ≠ .save) (hrestore : o ≠ .restore) :
    (u.perform limit o).1 = (t.perform limit o).1 ∧
      (u.perform limit o).2.cursor.index = (t.perform limit o).2.cursor.index := by
  have hcurrent : u.cursor.current = t.cursor.current := by
    rw [ht, hu, Token.Stream.current_cursorAt_of_take htake hi]
  have hkind : u.cursor.kind = t.cursor.kind := congrArg Token.kind hcurrent
  have hindex : u.cursor.index = t.cursor.index := by
    rw [ht, hu]
    rfl
  by_cases hr : o.Reads
  · obtain ⟨α, read, reply, h⟩ := exists_readsBy limit hr
    have hi' : i ≤ s'.firstEnd := Token.Stream.firstEnd_eq_of_take htake ▸ hi
    have hs := s.firstEnd_le
    have hs' := s'.firstEnd_le
    obtain ⟨n, -, hfinal, hsame⟩ := h.ahead s i (by rw [s.length_toList]; omega)
    have hplace : s.Place (s.cursorAt (i + n)) := by
      rw [← hfinal]
      exact Token.Stream.Place.reaches ⟨i, hi, rfl⟩ (h.moves _).final
    have hle : i + n ≤ s.firstEnd := hplace.index_le
    obtain ⟨hresult, hfinal'⟩ := hsame s' i (by rw [s'.length_toList]; omega) (by
      rw [← Token.Stream.extract_take (Nat.succ_le_succ hle), htake,
        Token.Stream.extract_take (Nat.succ_le_succ hle)])
    rw [h.perform, h.perform, goOn_cursor, goOn_cursor, ht, hu, hfinal, hfinal']
    exact ⟨goOn_reply hresult, rfl⟩
  · cases o with
    | current => exact ⟨congrArg Reply.token hcurrent, hindex⟩
    | precedence =>
        refine ⟨?_, hindex⟩
        show Reply.precedence _ = Reply.precedence _
        rw [hkind]
    | next =>
        refine ⟨congrArg Reply.token hcurrent, ?_⟩
        show u.cursor.next.index = t.cursor.next.index
        rw [Cursor.index_next, Cursor.index_next, hkind, hindex]
    | save => contradiction
    | restore => contradiction
    | _ => exact absurd trivial hr

/-! ### Histories -/

/-- The invariant of a cursor, through any history. It stands at a place up to the first end of the
input, outside of all expressions; leaving an expression never finds that none has been entered. No
operation but going back moves it back, and a reading that succeeds moves it on. What an operation
answers and where it ends is the same as for a fresh cursor moved on to the index where it starts,
also over a stream that differs behind the first end of the input. -/
theorem reachable_invariant (limit : Option Nat) (s : Token.Stream) (t : Session)
    (h : Reachable limit s t) :
    t.cursor.index ≤ s.firstEnd ∧ t.cursor.depth = 0 ∧
      s.toList[t.cursor.index]? = some t.cursor.current ∧
      (∀ c : Cursor, c.full limit = false → ∃ inner : Outcome Expr,
        inner = ((c.descend.readPrimary limit).andThen fun left c => c.readChain limit 0 left) ∧
        c.readExpression limit = inner.ascend ∧ inner.final.depth = c.depth + 1) ∧
      ∀ o : Operation,
        (o ≠ .restore → t.cursor.index ≤ (t.perform limit o).2.cursor.index) ∧
        (o.Reads → (∀ d, (t.perform limit o).1 ≠ .fault d) →
          (o = .item → t.cursor.kind ≠ .endOfInput) →
          t.cursor.index < (t.perform limit o).2.cursor.index) ∧
        (o ≠ .save → o ≠ .restore → ∀ (s' : Token.Stream) (u : Session),
          s'.toList.take (s.firstEnd + 1) = s.toList.take (s.firstEnd + 1) →
          u.cursor = s'.advanced t.cursor.index →
          (u.perform limit o).1 = (t.perform limit o).1 ∧
            (u.perform limit o).2.cursor.index = (t.perform limit o).2.cursor.index) := by
  have hplace := h.wellPlaced.cursor
  have hle := hplace.index_le
  have heq := hplace.eq
  refine ⟨hle, ?_, ?_, Cursor.readExpression_balanced limit, fun o => ⟨?_, ?_, ?_⟩⟩
  · rw [heq]
    rfl
  · have hcurrent := Token.Stream.current_cursorAt (Nat.le_trans hle s.firstEnd_le)
    rwa [← heq] at hcurrent
  · exact fun ho => (reaches_perform ho).index_le
  · exact index_lt_perform
  · intro hsave hrestore s' u htake hu
    have hle' : t.cursor.index ≤ s'.firstEnd := Token.Stream.firstEnd_eq_of_take htake ▸ hle
    rw [Token.Stream.advanced_eq hle'] at hu
    exact perform_congr hle heq htake hu hsave hrestore

/-- The tokens of `( x ; y`. -/
def unclosedThenName : Token.Stream :=
  Token.Stream.ofKinds [.char '(', .identifier "x", .char ';', .identifier "y"]

/-- A place was kept, two readings have failed on the separator, and one token was passed. -/
def afterFailures : Session :=
  let limit := some nestingLimit
  let kept := ((start unclosedThenName).perform limit .save).2
  let failed := (kept.perform limit .expression).2
  let back : Session := { failed with cursor := Cursor.start unclosedThenName }
  ((back.perform limit .item).2.perform limit .next).2

theorem reachable_invariant_afterFailures :
    Reachable (some nestingLimit) unclosedThenName afterFailures ∧
      afterFailures.cursor.index = 3 ∧ afterFailures.cursor.depth = 0 ∧
      (afterFailures.perform (some nestingLimit) .item).2.cursor.index = 4 ∧
      ((Session.mk (unclosedThenName.advanced 3) []).perform (some nestingLimit) .item).1 =
        (afterFailures.perform (some nestingLimit) .item).1 := by
  have h : Reachable (some nestingLimit) unclosedThenName afterFailures := by
    refine .perform .next (.perform .item (.back (.perform .expression (.perform .save .start)) ?_))
    simp [perform, start]
  have hindex : afterFailures.cursor.index = 3 := by decide +kernel
  obtain ⟨-, hdepth, -, -, hsteps⟩ := reachable_invariant _ _ _ h
  obtain ⟨-, -, hsame⟩ := hsteps .item
  rw [hindex] at hsame
  exact ⟨h, hindex, hdepth, by decide +kernel, (hsame (by simp) (by simp) _ _ rfl rfl).1⟩

end Session

end Kaleidoscope
