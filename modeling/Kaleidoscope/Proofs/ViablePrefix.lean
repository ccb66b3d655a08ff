import Kaleidoscope.Proofs.Completions
import Kaleidoscope.Proofs.Isolation
import Kaleidoscope.Proofs.Limits

/-!
Faults are reported at the first wrong token. What is in front of it is the start of a statement, by
`Completions`. With the token itself it is not: a statement that starts like this would be read to
its end if it stood alone, with a limit that leaves room for it. The reading of the given tokens
does the same as that one up to the wrong token, since it depends on nothing behind, and its limit
makes no difference unless it is why the reading failed (`readItem_eq_error`).
-/

namespace Kaleidoscope

namespace Cursor

variable {m : Nat} {c : Cursor} {f : Failure} {ts us behind : List Token}

/-- A reading that fails within some tokens, and not for want of room, has not found the start of a
statement in them. -/
theorem not_isStatement_of_error (hc : c.depth = 0) (hts : ts ≠ [])
    (htokens : c.tokens = ts ++ behind)
    (h : c.readItem (some m) = .error f) (hf : behind.length ≤ f.cursor.remaining)
    (hcause : f.cause ≠ .nestingTooDeep) (us : List Token) : ¬IsStatement (ts ++ us) := by
  rintro ⟨n, st, hd⟩
  let s : Token.Stream := ⟨ts ++ us, c.finish⟩
  -- alone, the statement is read to its end
  have hread : (start s).readItem (some (m + n)) = .ok (.statement st, _) :=
    hd.readItem_alone (Nat.le_add_left n m) c.finish
  -- with the limit it fails like the given tokens
  have ht : c.Tracks (.same behind (us ++ [⟨.endOfInput, c.finish⟩])) (start s) :=
    tracks_same hts htokens (by simp [tokens, start, s]) hc
  have halike := tracks_readItem (some m) ht
  rw [h] at halike
  cases hread' : (start s).readItem (some m) with
  | ok a =>
      rw [hread'] at halike
      cases halike hf
  | error f' =>
      rw [hread'] at halike
      cases halike hf with
      | error hsame _ =>
          have hrelax := relaxes_readItem (lessStrict_of_le (Nat.le_add_right m n)) (start s)
          rw [hread, hread'] at hrelax
          obtain ⟨f'', hf'', hdeep⟩ | hrelax := hrelax
          · obtain rfl := Except.error.inj hf''
            exact hcause (hsame.trans hdeep)
          · contradiction

end Cursor

namespace Token.Stream

/-- A fault is reported at the first wrong token. The tokens in front of it are the start of a
statement, and unless the nesting limit is what was wrong, no statement starts with it behind
them. -/
theorem readItem_eq_error (s : Stream) (i : Nat) (f : Failure) (hi : i < s.toList.length)
    (h : (s.cursorAt i).readItem (some nestingLimit) = .error f) :
    ∃ k t, i ≤ k ∧ f.cursor = s.cursorAt k ∧ s.toList[k]? = some t ∧
      f.diagnostic.location = t.location ∧
      (∀ u ∈ s.toList.extract i k, u.kind ≠ .char ';' ∧ u.kind ≠ .endOfInput) ∧
      (∃ us, IsStatement (s.toList.extract i k ++ us)) ∧
      (f.diagnostic.text ≠ "expression nested too deeply" →
        ∀ us, ¬IsStatement (s.toList.extract i (k + 1) ++ us)) := by
  have hlen : s.toList.length = s.body.length + 1 := by simp [toList]
  have hi : i ≤ s.body.length := by omega
  have hsep : (s.cursorAt i).kind ≠ .char ';' := by
    intro hk
    rw [Cursor.readItem_separator hk] at h
    contradiction
  have hstays := Cursor.stays_readItem (some nestingLimit) _ hsep
  rw [h] at hstays
  obtain ⟨used, hp, hus⟩ := hstays
  obtain ⟨hk, hused, hcursor⟩ := eq_of_passes hi hp
  generalize hkdef : i + used.length = k at hk hused hcursor
  have hik : i ≤ k := by omega
  refine ⟨k, (s.cursorAt k).current, hik, hcursor, current_cursorAt hk, ?_, ?_, ?_, ?_⟩
  · rw [Failure.diagnostic, Failure.location, hcursor]
    rfl
  · rw [← hused]
    exact fun u hu => ⟨hus u hu, hp.2.1 u hu⟩
  · obtain ⟨used', us, hp', hstatement⟩ := Cursor.completes_readItem nestingLimit _ f h
    obtain rfl := hp.unique hp'
    exact ⟨us, hused ▸ hstatement⟩
  · intro htext
    have hcause : f.cause ≠ .nestingTooDeep := by
      intro hcause
      rw [Diagnostic.text, Failure.diagnostic, hcause] at htext
      exact htext rfl
    have htokens : (s.cursorAt i).tokens =
        s.toList.extract i (k + 1) ++ s.toList.drop (k + 1) := by
      rw [tokens_cursorAt hi, extract_append_drop (Nat.le_succ_of_le hik)]
    refine Cursor.not_isStatement_of_error rfl ?_ htokens h ?_ hcause
    · intro hnil
      have := congrArg List.length hnil
      simp only [List.extract_eq_take_drop, List.length_take, List.length_drop,
        List.length_nil] at this
      omega
    · rw [hcursor, List.length_drop, hlen]
      simp [cursorAt, Cursor.remaining]

/-- The tokens of `def f x`. -/
def unopened : Stream :=
  ofKinds [.defWord, .identifier "f", .identifier "x"]

/-- The name in the place of the parenthesis is where the fault is. -/
theorem readItem_unopened : 0 < unopened.toList.length ∧
    (unopened.cursorAt 0).readItem (some nestingLimit) =
      .error ⟨.parametersExpected, unopened.cursorAt 2⟩ ∧
    (∃ us, IsStatement (unopened.toList.extract 0 2 ++ us)) ∧
    ∀ us, ¬IsStatement (unopened.toList.extract 0 3 ++ us) := by
  have h : (unopened.cursorAt 0).readItem (some nestingLimit) =
      .error ⟨.parametersExpected, unopened.cursorAt 2⟩ := rfl
  have hi : 0 < unopened.toList.length := by decide
  obtain ⟨k, t, -, hcursor, -, -, -, hstart, hwrong⟩ := readItem_eq_error unopened 0 _ hi h
  obtain rfl : 2 = k := congrArg Cursor.index hcursor
  exact ⟨hi, h, hstart, hwrong (by decide)⟩

end Token.Stream

end Kaleidoscope
