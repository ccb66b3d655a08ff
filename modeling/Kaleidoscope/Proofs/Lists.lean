import Kaleidoscope.Proofs.Continuations

/-!
Reading lists. Arguments and parameters are lists of one form: elements with commas between them,
and a parenthesis at the end. A reader of such a list recognises it if the reader of its elements
recognises one that a comma or a parenthesis follows (`readList_eq_ok_iff`).
-/

namespace Kaleidoscope

namespace Cursor

/-- At one depth, an element is read exactly where one is derived and the list ends or goes on. -/
structure ReadsElements {α : Type} (depth : Nat) (element : Cursor → Outcome α)
    (p : List Token → α → Prop) : Prop where
  derives {c c' : Cursor} {a : α} : c.depth = depth → element c = .ok (a, c') →
    ∃ used, c.Passes used c' ∧ p used a
  reads {c c' : Cursor} {a : α} {used : List Token} : c.depth = depth → c.Passes used c' →
    p used a → c'.kind = .char ',' ∨ c'.kind = .char ')' → element c = .ok (a, c')

variable {α : Type} {depth : Nat} {element : Cursor → Outcome α} {p : List Token → α → Prop}
  {list : Cursor → Outcome (List α)} {cause : GrammarFault} {c c' : Cursor} {a : α} {as : List α}
  {ts : List Token} {z : Token}

theorem afterElement_eq_ok_iff : c.afterElement cause list a = .ok (as, c') ↔
    c.kind = .char ')' ∧ as = [a] ∧ c' = c.next ∨
      ∃ more, c.kind = .char ',' ∧ list c.next = .ok (more, c') ∧ as = a :: more := by
  by_cases hclose : c.kind = .char ')'
  · simp [afterElement_close hclose, hclose, eq_comm]
  · by_cases hcomma : c.kind = .char ','
    · rw [afterElement_comma hcomma, Outcome.map_eq_ok_iff]
      simp [hcomma, eq_comm]
    · simp [afterElement_other hclose hcomma, hclose, hcomma]

/-- What a successful reading of a list has passed: the elements, with commas between them, and
the parenthesis. -/
theorem listed_of_readList (he : ReadsElements depth element p)
    (hl : ∀ c, list c = (element c).andThen (afterElement cause list)) (hc : c.depth = depth)
    (h : list c = .ok (as, c')) : ∃ ts z, as ≠ [] ∧ Listed p ts as ∧ z.kind = .char ')' ∧
      c.Passes (ts ++ [z]) c' := by
  induction as generalizing c with
  | nil =>
      rw [hl] at h
      obtain ⟨a, c₁, -, h⟩ := Outcome.andThen_eq_ok_iff.1 h
      rcases afterElement_eq_ok_iff.1 h with ⟨-, h, -⟩ | ⟨_, -, -, h⟩ <;> contradiction
  | cons a as ih =>
      rw [hl] at h
      obtain ⟨a', c₁, ha, h⟩ := Outcome.andThen_eq_ok_iff.1 h
      obtain ⟨used, hp, hd⟩ := he.derives hc ha
      rcases afterElement_eq_ok_iff.1 h with ⟨hk, has, rfl⟩ | ⟨more, hk, hmore, has⟩
      -- the last element
      · obtain ⟨rfl, rfl⟩ := List.cons.inj has
        refine ⟨used, c₁.current, by simp, Listed.singleton_iff.2 hd, hk, ?_⟩
        exact hp.trans (passes_next (by simp [hk]))
      -- a comma and the other elements, of which there is at least one
      · obtain ⟨rfl, rfl⟩ := List.cons.inj has
        have hp₁ := hp.trans (passes_next (c := c₁) (by simp [hk]))
        obtain ⟨ts, z, hne, hlist, hz, hp'⟩ := ih (by rw [hp₁.depth_eq, hc]) hmore
        obtain ⟨b, bs, rfl⟩ := List.exists_cons_of_ne_nil hne
        refine ⟨used ++ c₁.current :: ts, z, by simp, ?_, hz, by simpa using hp₁.trans hp'⟩
        exact Listed.cons_iff.2 ⟨used, c₁.current, ts, rfl, hk, hd, hlist⟩

theorem readList_of_listed (he : ReadsElements depth element p)
    (hl : ∀ c, list c = (element c).andThen (afterElement cause list)) (hc : c.depth = depth)
    (hne : as ≠ []) (hlist : Listed p ts as) (hz : z.kind = .char ')')
    (hp : c.Passes (ts ++ [z]) c') : list c = .ok (as, c') := by
  induction as generalizing c ts with
  | nil => contradiction
  | cons a as ih =>
      cases as with
      | nil =>
          obtain ⟨c₁, hts, hp₁⟩ := passes_append.1 hp
          obtain ⟨rfl, -, rfl⟩ := passes_singleton.1 hp₁
          have ha := he.reads hc hts (Listed.singleton_iff.1 hlist) (.inr hz)
          rw [hl, ha, Outcome.andThen_ok, afterElement_close hz]
      | cons b bs =>
          obtain ⟨us, t, vs, rfl, ht, hd, hrest⟩ := Listed.cons_iff.1 hlist
          rw [List.append_assoc, List.cons_append] at hp
          obtain ⟨c₁, hus, hp₁⟩ := passes_append.1 hp
          obtain ⟨rfl, -, hp₂⟩ := passes_cons.1 hp₁
          have ha := he.reads hc hus hd (.inl ht)
          have hdepth : c₁.next.depth = depth := by rw [depth_next, hus.depth_eq, hc]
          rw [hl, ha, Outcome.andThen_ok, afterElement_comma ht, ih hdepth (by simp) hrest hp₂]
          rfl

theorem readList_eq_ok_iff (he : ReadsElements depth element p)
    (hl : ∀ c, list c = (element c).andThen (afterElement cause list)) (hc : c.depth = depth) :
    list c = .ok (as, c') ↔ ∃ ts z, as ≠ [] ∧ Listed p ts as ∧ z.kind = .char ')' ∧
      c.Passes (ts ++ [z]) c' := by
  constructor
  · exact listed_of_readList he hl hc
  · rintro ⟨ts, z, hne, hlist, hz, hp⟩
    exact readList_of_listed he hl hc hne hlist hz hp

end Cursor

end Kaleidoscope
