import Kaleidoscope.Journal.Basic
import Kaleidoscope.Proofs.Programs
import Mathlib.Algebra.GroupWithZero.Nat

/-!
What the journal of a run accounts for. A step of a run takes some tokens: a separator takes itself,
an item what it was read from, and a fault what was read in front of it and what recovering from it
skipped. Such accounts follow one another from the start of the program to its end (`Ledger`), and
each of them but a separator comes with one event and with one note that tells of it. So the counts
that the journal notes are what is missing between the tokens of the items and those of the program
(`ofStream_ledger`).
-/

namespace Kaleidoscope

namespace Journal

/-- The note on a node, if the statement that gave it starts with this token. -/
inductive Tells (stage : Stage) (first : Token) : Node → Note → Prop
  | definition {f : Function} : first.kind = .defWord → Tells stage first (.function f)
      ⟨stage, .debug, "parsed definition",
        [⟨"name", .text f.prototype.name⟩, ⟨"position", .text f.location.display⟩]⟩
  | external {p : Prototype} : first.kind = .externWord → Tells stage first (.external p)
      ⟨stage, .debug, "parsed extern",
        [⟨"name", .text p.name⟩, ⟨"position", .text p.location.display⟩]⟩
  | bare {f : Function} : first.kind ≠ .defWord → first.kind ≠ .externWord →
      Tells stage first (.function f)
        ⟨stage, .debug, "parsed top-level expression", [⟨"position", .text f.location.display⟩]⟩

/-- The note on a fault, and on how many tokens recovering from it skipped. -/
def warning (stage : Stage) (d : Diagnostic GrammarFault) (skipped : Nat) : Note :=
  ⟨stage, .warn, d.text ++ ", skipping to next statement",
    [⟨"position", .text d.location.display⟩, ⟨"skipped", .count skipped⟩]⟩

theorem tells_ofStatement {n : Nat} {t : Token} {ts : List Token} {st : Statement} (stage : Stage)
    (h : DerivesStatement n (t :: ts) st) : Tells stage t st.node (ofStatement stage st) := by
  cases h with
  | definition hk _ _ => exact .definition hk
  | external hk _ => exact .external hk
  | expression hd =>
      obtain ⟨t', ts', hts, hstarts⟩ := hd.head
      obtain ⟨rfl, rfl⟩ := List.cons.inj hts
      exact .bare hstarts.ne_defWord hstarts.ne_externWord

end Journal

/-! ### Accounts -/

/-- What a step of a run tells, and how many tokens it takes for what. -/
inductive Account where
  | separator
  | item (node : Node) (note : Journal.Note) (consumed : Nat)
  | fault (d : Diagnostic GrammarFault) (note : Journal.Note) (before skipped : Nat)

namespace Account

/-- The event and the note that go with it. -/
def told : Account → Option (Event × Journal.Note)
  | separator => none
  | item node note _ => some (.node node, note)
  | fault d note _ _ => some (.fault d, note)

/-- The tokens that an item was read from. -/
def consumed : Account → Nat
  | item _ _ n => n
  | _ => 0

def separators : Account → Nat
  | separator => 1
  | _ => 0

/-- The tokens of a statement in front of the one that is wrong. -/
def before : Account → Nat
  | fault _ _ n _ => n
  | _ => 0

/-- The tokens that were skipped from the wrong one on. -/
def skipped : Account → Nat
  | fault _ _ _ n => n
  | _ => 0

end Account

namespace Cursor

/-- Nothing is skipped only where the input ends. -/
theorem ToSeparator.eq_nil_iff {c c' : Cursor} {ts : List Token} (h : c.ToSeparator ts c') :
    ts = [] ↔ c.kind = .endOfInput := by
  obtain ⟨hp, hts⟩ := h
  constructor
  · rintro rfl
    obtain rfl := passes_nil.1 hp
    obtain ⟨init, z, hnil, -⟩ | ⟨-, hend⟩ := hts
    · simp at hnil
    · exact hend
  · intro hc
    cases ts with
    | nil => rfl
    | cons t ts =>
        obtain ⟨rfl, ht, -⟩ := passes_cons.1 hp
        exact absurd hc ht

end Cursor

namespace Token.Stream

variable {s : Stream} {stage : Journal.Stage} {i j k n : Nat} {a : Account}
  {accounts : List Account} {st : Statement} {run : Run} {c' : Cursor}

/-- The account of what a run does from one place of a stream to another. -/
inductive Accounts (s : Stream) (stage : Journal.Stage) : Nat → Account → Nat → Prop
  | separator {i : Nat} : (s.cursorAt i).kind = .char ';' → Accounts s stage i .separator (i + 1)
  | item {i n : Nat} {st : Statement} {note : Journal.Note} :
      (s.cursorAt i).readItem (some nestingLimit) = .ok (.statement st, s.cursorAt (i + n)) →
      Journal.Tells stage (s.cursorAt i).current st.node note →
      Accounts s stage i (.item st.node note n) (i + n)
  /-- What is skipped starts with the wrong token and goes through the first separator, or up to the
  end of the input. It is nothing only if the wrong token is that end. -/
  | fault {i n skipped : Nat} {f : Failure} :
      (s.cursorAt i).readItem (some nestingLimit) = .error f → f.cursor = s.cursorAt (i + n) →
      (s.cursorAt (i + n)).ToSeparator (s.toList.extract (i + n) (i + n + skipped))
        (s.cursorAt (i + n + skipped)) →
      (skipped = 0 ↔ i + n = s.firstEnd) →
      Accounts s stage i (.fault f.diagnostic (Journal.warning stage f.diagnostic skipped) n skipped)
        (i + n + skipped)

/-- Accounts one behind the other. -/
inductive Ledger (s : Stream) (stage : Journal.Stage) : Nat → List Account → Nat → Prop
  | nil (i : Nat) : Ledger s stage i [] i
  | cons {i j k : Nat} {a : Account} {accounts : List Account} :
      Accounts s stage i a j → Ledger s stage j accounts k → Ledger s stage i (a :: accounts) k

/-- All tokens that an account takes. -/
theorem Accounts.balance (h : s.Accounts stage i a j) :
    i + (a.consumed + a.separators + a.before + a.skipped) = j := by
  cases h with
  | separator _ => rfl
  | item _ _ => rfl
  | fault _ _ _ _ => simp [Account.consumed, Account.separators, Account.before, Account.skipped,
      Nat.add_assoc]

theorem Ledger.balance (h : s.Ledger stage i accounts j) :
    i + ((accounts.map Account.consumed).sum + (accounts.map Account.separators).sum +
      (accounts.map Account.before).sum + (accounts.map Account.skipped).sum) = j := by
  induction h with
  | nil i => rfl
  | cons ha _ ih =>
      have := ha.balance
      simp only [List.map_cons, List.sum_cons]
      omega

/-- What moves a cursor leaves less of the program. -/
theorem left_lt_of_remaining_lt (hj : j ≤ s.firstEnd)
    (h : (s.cursorAt j).remaining < (s.cursorAt i).remaining) :
    s.firstEnd - j < s.firstEnd - i := by
  rw [remaining_cursorAt, remaining_cursorAt] at h
  omega

/-- The accounts are those of a run from a place to the end of the program. -/
structure Kept (s : Stream) (stage : Journal.Stage) (i : Nat) (accounts : List Account) (run : Run) :
    Prop where
  ledger : s.Ledger stage i accounts s.firstEnd
  events : run.steps.map Step.event? = accounts.map fun a => a.told.map (·.1)
  notes : run.steps.map (Journal.ofStep stage) = accounts.map fun a => a.told.map (·.2)

theorem Kept.cons {step : Step} (h : s.Kept stage j accounts run) (ha : s.Accounts stage i a j)
    (he : step.event? = a.told.map (·.1)) (hn : Journal.ofStep stage step = a.told.map (·.2)) :
    s.Kept stage i (a :: accounts) (run.cons step) where
  ledger := .cons ha h.ledger
  events := by simp [Run.cons, he, h.events]
  notes := by simp [Run.cons, hn, h.notes]

theorem Kept.events_eq (h : s.Kept stage i accounts run) :
    run.events = (accounts.filterMap Account.told).map (·.1) := by
  have hevents := congrArg (List.filterMap id) h.events
  rw [List.filterMap_map, List.filterMap_map] at hevents
  exact hevents.trans List.map_filterMap.symm

theorem Kept.notes_eq (h : s.Kept stage i accounts run) :
    run.steps.filterMap (Journal.ofStep stage) = (accounts.filterMap Account.told).map (·.2) := by
  have hnotes := congrArg (List.filterMap id) h.notes
  rw [List.filterMap_map, List.filterMap_map] at hnotes
  exact hnotes.trans List.map_filterMap.symm

/-! ### The accounts of a run -/

theorem accounts_item (stage : Journal.Stage)
    (h : (s.cursorAt i).readItem (some nestingLimit) = .ok (.statement st, s.cursorAt (i + n))) :
    s.Accounts stage i (.item st.node (Journal.ofStatement stage st) n) (i + n) := by
  obtain ⟨used, hp, hd, -⟩ := Cursor.derives_of_readItem (Nat.zero_add nestingLimit) h
  obtain ⟨t, rest, rfl, -⟩ := hd.head
  obtain ⟨rfl, -⟩ := Cursor.passes_cons.1 hp
  exact .item h (Journal.tells_ofStatement stage hd)

theorem exists_accounts_fault {f : Failure} (stage : Journal.Stage) (hi : i ≤ s.firstEnd)
    (h : (s.cursorAt i).readItem (some nestingLimit) = .error f) : ∃ n skipped,
      s.Accounts stage i
        (.fault f.diagnostic (Journal.warning stage f.diagnostic skipped) n skipped)
        (i + n + skipped) ∧
      i + n + skipped ≤ s.firstEnd ∧ f.cursor.skipStatement = s.cursorAt (i + n + skipped) ∧
      f.cursor.skipStatement.index - f.cursor.index = skipped := by
  have hmoves := Cursor.moves_readItem (some nestingLimit) (s.cursorAt i)
  rw [h] at hmoves
  obtain ⟨n, hn, hcursor⟩ := exists_cursorAt_of_reaches hi hmoves
  obtain ⟨ts, hts⟩ := Cursor.toSeparator_skipStatement f.cursor
  rw [hcursor] at hts ⊢
  obtain ⟨j, hj, hjend, rfl, hskip⟩ := (passes_cursorAt_iff hn).1 hts.1
  obtain ⟨skipped, rfl⟩ := Nat.exists_eq_add_of_le hj
  rw [hskip] at hts ⊢
  refine ⟨n, skipped, .fault h hcursor hts ?_, hjend, rfl, Nat.add_sub_cancel_left _ _⟩
  -- as many tokens are skipped as the index moves on, so none only at the end of the input
  have hlength : i + n + skipped = i + n + _ := congrArg Cursor.index hts.1.2.2
  rw [← kind_cursorAt_eq_end_iff hn, ← hts.eq_nil_iff, ← List.length_eq_zero_iff]
  omega

/-- A run keeps such accounts from wherever in the program it starts. -/
theorem exists_kept (s : Stream) (stage : Journal.Stage) (i : Nat) (hi : i ≤ s.firstEnd) :
    ∃ accounts, s.Kept stage i accounts ((s.cursorAt i).readProgram (some nestingLimit)) := by
  rw [Cursor.readProgram_eq]
  cases h : (s.cursorAt i).readItem (some nestingLimit) with
  | error f =>
      obtain ⟨n, skipped, ha, hend, hskip, hcount⟩ := exists_accounts_fault stage hi h
      have hlt := Cursor.skipStatement_lt_of_readItem h
      rw [hskip] at hlt
      have := left_lt_of_remaining_lt hend hlt
      obtain ⟨accounts, hkept⟩ := exists_kept s stage (i + n + skipped) hend
      -- the run notes the indices' difference as the count
      show ∃ accounts, s.Kept stage i accounts
        ((f.cursor.skipStatement.readProgram (some nestingLimit)).cons (.fault f.diagnostic _))
      rw [hcount, hskip]
      exact ⟨_, hkept.cons ha rfl rfl⟩
  | ok read =>
      obtain ⟨item, c₁⟩ := read
      cases item with
      | finish =>
          obtain ⟨hk, rfl⟩ := Cursor.end_of_readItem h
          obtain rfl := (kind_cursorAt_eq_end_iff hi).1 hk
          exact ⟨[], .nil _, rfl, rfl⟩
      | separator =>
          obtain ⟨hk, rfl⟩ := Cursor.separator_of_readItem h
          -- at the first end a separator cannot stand, so its place is in front of it
          have hlt : i < s.firstEnd := by
            refine Nat.lt_of_le_of_ne hi fun he => ?_
            rw [(kind_cursorAt_eq_end_iff hi).2 he] at hk
            contradiction
          rw [next_cursorAt hlt]
          obtain ⟨accounts, hkept⟩ := exists_kept s stage (i + 1) hlt
          exact ⟨_, hkept.cons (.separator hk) rfl rfl⟩
      | statement st =>
          have hmoves := Cursor.moves_readItem (some nestingLimit) (s.cursorAt i)
          rw [h] at hmoves
          obtain ⟨n, hn, rfl⟩ := exists_cursorAt_of_reaches hi hmoves
          have := left_lt_of_remaining_lt hn
            (Cursor.readItem_lt h (Cursor.ne_end_of_readItem h (by simp)))
          obtain ⟨accounts, hkept⟩ := exists_kept s stage (i + n) hn
          exact ⟨_, hkept.cons (accounts_item stage h) rfl rfl⟩
termination_by s.firstEnd - i

/-- The journal of a run accounts for every event and every token. Behind the record of how many
tokens the stream has, it has one note for each event, in their order, and the counts of skipped
tokens that it notes make up, with the tokens of the items, the separators and the tokens in front
of the faults, the whole program. -/
theorem ofStream_ledger (s : Stream) : ∃ accounts : List Account,
    s.Ledger (Journal.running s.toList.length) 0 accounts s.firstEnd ∧
      s.run.events = (accounts.filterMap Account.told).map (·.1) ∧
      Journal.ofStream s =
        .opened ⟨"run", "kaleidoscope::driver", [⟨"token_count", .count s.toList.length⟩]⟩ ::
          ((accounts.filterMap Account.told).map (·.2)).map .noted ∧
      (accounts.map Account.consumed).sum + (accounts.map Account.separators).sum +
        (accounts.map Account.before).sum + (accounts.map Account.skipped).sum = s.firstEnd := by
  obtain ⟨accounts, h⟩ := exists_kept s (Journal.running s.toList.length) 0 (Nat.zero_le _)
  change s.Kept (Journal.running s.toList.length) 0 accounts s.run at h
  have hbalance := h.ledger.balance
  rw [Nat.zero_add] at hbalance
  refine ⟨accounts, h.ledger, h.events_eq, ?_, hbalance⟩
  rw [Journal.ofStream, h.notes_eq]
  rfl

/-- The tokens of `y ) z ; (`, with a fault that skips three tokens and one at the end, where there
is nothing to skip. -/
example : Journal.ofStream (ofKinds [.identifier "y", .char ')', .identifier "z", .char ';',
    .char '(']) =
    let stage := Journal.running 6
    [.opened stage,
      .noted ⟨stage, .debug, "parsed top-level expression", [⟨"position", .text ":1:1"⟩]⟩,
      .noted ⟨stage, .warn,
        "unknown token when expecting an expression, skipping to next statement",
        [⟨"position", .text ":1:2"⟩, ⟨"skipped", .count 3⟩]⟩,
      .noted ⟨stage, .warn,
        "unknown token when expecting an expression, skipping to next statement",
        [⟨"position", .text ":1:6"⟩, ⟨"skipped", .count 0⟩]⟩] := by
  decide +kernel

end Token.Stream

end Kaleidoscope
