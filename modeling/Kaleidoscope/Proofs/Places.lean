import Kaleidoscope.Cursor

/-!
The places of a stream. Outside of expressions a cursor stands at an index, and what it passes
between two places is the stretch of the token list between their indices (`eq_of_passes`). From the
start it gets up to the first end of the input (`passes_cursorAt_iff`).
-/

namespace Kaleidoscope

theorem Cursor.Passes.unique {c c' : Cursor} {ts us : List Token} (h : c.Passes ts c')
    (h' : c.Passes us c') : ts = us :=
  List.append_cancel_right (h.1.symm.trans h'.1)

namespace Token.Stream

/-- The cursor that has passed so many tokens. -/
def cursorAt (s : Stream) (i : Nat) : Cursor :=
  ⟨s.body.drop i, s.finish, i, 0⟩

/-- The index of the first end of the input. -/
def firstEnd (s : Stream) : Nat :=
  s.toList.findIdx (·.kind.isEnd)

/-- The tokens in front of the first end of the input. -/
def program (s : Stream) : List Token :=
  s.toList.take s.firstEnd

/-- One line of tokens, each taking one column. -/
def ofKinds (kinds : List Kind) : Stream :=
  ⟨kinds.zipIdx.map fun (k, i) => ⟨k, "", 1, i + 1⟩, "", 1, kinds.length + 1⟩

variable {s : Stream} {i j : Nat} {t : Token} {used : List Token} {c : Cursor}

@[simp] theorem cursorAt_zero (s : Stream) : s.cursorAt 0 = Cursor.start s := rfl

theorem length_toList (s : Stream) : s.toList.length = s.body.length + 1 := by
  simp [toList]

@[simp] theorem remaining_cursorAt (s : Stream) (i : Nat) :
    (s.cursorAt i).remaining = s.body.length - i := by
  simp [cursorAt, Cursor.remaining]

theorem firstEnd_le (s : Stream) : s.firstEnd ≤ s.body.length := by
  have : s.firstEnd < s.toList.length :=
    List.findIdx_lt_length.2 ⟨⟨.endOfInput, s.finish⟩, by simp [toList], rfl⟩
  simpa [toList, Nat.lt_succ_iff] using this

theorem extract_toList (h : j ≤ s.body.length) : s.toList.extract i j = s.body.extract i j := by
  simp only [List.extract_eq_take_drop, toList]
  rcases Nat.le_total i j with hij | hij
  · rw [List.drop_append_of_le_length (Nat.le_trans hij h), List.take_append_of_le_length]
    rw [List.length_drop]
    omega
  · simp [Nat.sub_eq_zero_of_le hij]

theorem lt_of_extract_ne_nil {ts : List Token} (h : ts.extract i j ≠ []) : i < j := by
  refine Nat.lt_of_not_le fun hle => h ?_
  simp [List.extract_eq_take_drop, Nat.sub_eq_zero_of_le hle]

theorem current_cursorAt (h : i ≤ s.body.length) :
    s.toList[i]? = some (s.cursorAt i).current := by
  simp only [toList, Cursor.current, cursorAt]
  rcases Nat.lt_or_eq_of_le h with h | rfl
  · rw [List.getElem?_append_left h, List.drop_eq_getElem_cons h]
    simp [h]
  · simp

theorem kind_ne_end (hi : i < s.firstEnd) (h : s.toList[i]? = some t) : t.kind ≠ .endOfInput := by
  obtain ⟨hlt, rfl⟩ := List.getElem?_eq_some_iff.1 h
  simpa using List.not_of_lt_findIdx hi

theorem kind_cursorAt_firstEnd (s : Stream) : (s.cursorAt s.firstEnd).kind = .endOfInput :=
  Kind.isEnd_iff.1 (List.findIdx_of_getElem?_eq_some (p := fun t : Token => t.kind.isEnd)
    (current_cursorAt s.firstEnd_le))

/-- A stretch without ends of input lies in front of the first one. -/
theorem le_firstEnd (hi : i ≤ s.firstEnd) (hj : j ≤ s.body.length)
    (h : ∀ t ∈ s.body.extract i j, t.kind ≠ .endOfInput) : j ≤ s.firstEnd := by
  refine Nat.le_of_not_lt fun hlt => ?_
  have hlen : s.firstEnd < s.body.length := by omega
  refine h s.body[s.firstEnd] ?_ ?_
  · rw [List.extract_eq_take_drop, List.mem_take_iff_getElem]
    refine ⟨s.firstEnd - i, by simp; omega, ?_⟩
    rw [List.getElem_drop]
    congr 1
    omega
  · have hcur := current_cursorAt s.firstEnd_le
    rw [toList, List.getElem?_append_left hlen, List.getElem?_eq_getElem hlen,
      Option.some.injEq] at hcur
    rw [hcur]
    exact s.kind_cursorAt_firstEnd

theorem passes_cursorAt (hij : i ≤ j) (hj : j ≤ s.firstEnd) :
    (s.cursorAt i).Passes (s.toList.extract i j) (s.cursorAt j) := by
  have hlen := Nat.le_trans hj s.firstEnd_le
  refine ⟨?_, ?_, ?_⟩
  · rw [extract_toList hlen]
    simp only [cursorAt, List.extract_eq_take_drop]
    rw [show j = i + (j - i) by omega, ← List.drop_drop, Nat.add_sub_cancel_left,
      List.take_append_drop]
  · intro t ht
    rw [List.extract_eq_take_drop] at ht
    obtain ⟨k, hk, rfl⟩ := List.mem_take_iff_getElem.1 ht
    rw [List.getElem_drop]
    exact kind_ne_end (i := i + k) (by omega) (List.getElem?_eq_getElem _)
  · rw [extract_toList hlen]
    simp only [cursorAt, List.extract_eq_take_drop, List.length_take, List.length_drop,
      Cursor.mk.injEq, true_and, and_true]
    omega

theorem kind_cursorAt_length (s : Stream) : (s.cursorAt s.body.length).kind = .endOfInput := by
  simp [cursorAt, Cursor.kind, Cursor.current]

/-- Where no end of the input stands among the tokens, they can be passed up to the last one. -/
theorem passes_start (h : ∀ t ∈ s.body, t.kind ≠ .endOfInput) :
    (Cursor.start s).Passes s.body (s.cursorAt s.body.length) :=
  ⟨by simp [cursorAt, Cursor.start], h, by simp [cursorAt, Cursor.start]⟩

/-- From any place of the stream a cursor only passes to another one. -/
theorem eq_of_passes (hi : i ≤ s.body.length) (h : (s.cursorAt i).Passes used c) :
    i + used.length ≤ s.body.length ∧ used = s.toList.extract i (i + used.length) ∧
      c = s.cursorAt (i + used.length) := by
  obtain ⟨ha, -, he⟩ := h
  simp only [cursorAt] at ha
  have hlen : i + used.length ≤ s.body.length := by
    have := congrArg List.length ha
    simp only [List.length_drop, List.length_append] at this
    omega
  refine ⟨hlen, ?_, ?_⟩
  · rw [extract_toList hlen]
    simp [List.extract_eq_take_drop, ha]
  · rw [he]
    simp only [cursorAt, Cursor.mk.injEq, and_true]
    rw [← List.drop_drop, ha]
    simp

theorem next_cursorAt (h : i < s.firstEnd) : (s.cursorAt i).next = s.cursorAt (i + 1) := by
  have hle := s.firstEnd_le
  have hk : (s.cursorAt i).kind ≠ .endOfInput := kind_ne_end h (current_cursorAt (by omega))
  obtain ⟨-, -, hnext⟩ := eq_of_passes (by omega) (Cursor.passes_next hk)
  exact hnext

/-- In front of the first end of the input, these are the places up to that end. -/
theorem passes_cursorAt_iff (hi : i ≤ s.firstEnd) : (s.cursorAt i).Passes used c ↔
    ∃ j, i ≤ j ∧ j ≤ s.firstEnd ∧ used = s.toList.extract i j ∧ c = s.cursorAt j := by
  constructor
  · intro h
    have hle := s.firstEnd_le
    obtain ⟨hlen, hused, hc⟩ := eq_of_passes (Nat.le_trans hi hle) h
    have hj : i + used.length ≤ s.firstEnd := by
      refine le_firstEnd hi hlen fun t ht => h.2.1 t ?_
      rwa [hused, extract_toList hlen]
    exact ⟨_, Nat.le_add_right _ _, hj, hused, hc⟩
  · rintro ⟨j, hij, hj, rfl, rfl⟩
    exact passes_cursorAt hij hj

/-- From a place of the program a cursor gets to one that is no further than its end. -/
theorem exists_cursorAt_of_reaches (hi : i ≤ s.firstEnd) (h : (s.cursorAt i).Reaches c) :
    ∃ n, i + n ≤ s.firstEnd ∧ c = s.cursorAt (i + n) := by
  obtain ⟨used, hp⟩ := Cursor.reaches_iff.1 h
  obtain ⟨j, hij, hj, -, rfl⟩ := (passes_cursorAt_iff hi).1 hp
  obtain ⟨n, rfl⟩ := Nat.exists_eq_add_of_le hij
  exact ⟨n, hj, rfl⟩

theorem extract_append_drop {ts : List Token} (hij : i ≤ j) :
    ts.extract i j ++ ts.drop j = ts.drop i := by
  have hdrop : ts.drop j = (ts.drop i).drop (j - i) := by
    rw [List.drop_drop, Nat.add_sub_cancel' hij]
  rw [List.extract_eq_take_drop, hdrop, List.take_append_drop]

theorem extract_ne_nil {ts : List Token} (hi : i < ts.length) (hj : i < j) :
    ts.extract i j ≠ [] := by
  rw [List.extract_eq_take_drop, ← List.length_pos_iff, List.length_take, List.length_drop]
  omega

theorem extract_take {ts : List Token} {m : Nat} (h : j ≤ m) :
    (ts.take m).extract i j = ts.extract i j := by
  simp only [List.extract_eq_take_drop, List.drop_take, List.take_take]
  congr 1
  omega

/-- The tokens ahead and all that follow them. -/
theorem tokens_cursorAt (hi : i ≤ s.body.length) : (s.cursorAt i).tokens = s.toList.drop i := by
  rw [Cursor.tokens, toList, List.drop_append_of_le_length hi]
  rfl

/-- The tokens from a place on, cut behind the one that is so many tokens further on. -/
theorem tokens_cursorAt_add {n : Nat} (h : i + n < s.toList.length) :
    (s.cursorAt i).tokens = s.toList.extract i (i + n + 1) ++ s.toList.drop (i + n + 1) := by
  rw [s.length_toList] at h
  rw [tokens_cursorAt (by omega), extract_append_drop (by omega)]

theorem extract_firstEnd (s : Stream) : s.toList.extract 0 s.firstEnd = s.program := by
  simp [program, List.extract_eq_take_drop]

theorem length_program (s : Stream) : s.program.length = s.firstEnd := by
  have := s.firstEnd_le
  rw [program, List.length_take, toList, List.length_append]
  omega

theorem kind_cursorAt_eq_end_iff (hj : j ≤ s.firstEnd) :
    (s.cursorAt j).kind = .endOfInput ↔ j = s.firstEnd := by
  constructor
  · intro hk
    refine Nat.le_antisymm hj (Nat.le_of_not_lt fun hlt => ?_)
    exact kind_ne_end hlt (current_cursorAt (Nat.le_trans hj s.firstEnd_le)) hk
  · rintro rfl
    exact s.kind_cursorAt_firstEnd

/-- Only one place is behind the program. -/
theorem eq_firstEnd (h : (Cursor.start s).Passes used c) (hc : c.kind = .endOfInput) :
    used = s.program ∧ c = s.cursorAt s.firstEnd := by
  rw [← cursorAt_zero] at h
  obtain ⟨j, -, hj, rfl, rfl⟩ := (passes_cursorAt_iff (Nat.zero_le _)).1 h
  obtain rfl := (kind_cursorAt_eq_end_iff hj).1 hc
  exact ⟨extract_firstEnd s, rfl⟩

end Token.Stream

end Kaleidoscope
