import Kaleidoscope.Proofs.Continuations

/-!
The expressions that a reading enters, in the order in which it does. An entry has a level, which is
one more than the number of expressions that are being read when it happens, and the place where the
expression starts. These are the entries of readings without a limit; each list is put together as
its reader is, from the entries up to a place that the reader comes to and those from there on.
-/

namespace Kaleidoscope

/-- A start of reading an expression. -/
structure Entry where
  level : Nat
  cursor : Cursor

namespace Entry

/-- The entry, seen from around one expression more. -/
def deepen (e : Entry) : Entry :=
  { e with level := e.level + 1 }

/-- The entry into an expression, and then the entries inside of it. -/
def enclose (c : Cursor) (entries : List Entry) : List Entry :=
  ⟨1, c⟩ :: entries.map deepen

/-- The first entry at a level. -/
def firstAt (n : Nat) (entries : List Entry) : Option Entry :=
  entries.find? (·.level == n)

variable {n : Nat} {c : Cursor} {entries entries' : List Entry}

@[simp] theorem firstAt_nil : firstAt n [] = none := rfl

theorem firstAt_append : firstAt n (entries ++ entries') =
    (firstAt n entries).or (firstAt n entries') :=
  List.find?_append

theorem firstAt_eq_none_iff : firstAt n entries = none ↔ ∀ e ∈ entries, e.level ≠ n := by
  simp [firstAt]

theorem firstAt_mem {e : Entry} (h : firstAt n entries = some e) : e ∈ entries :=
  List.mem_of_find?_eq_some h

theorem firstAt_level {e : Entry} (h : firstAt n entries = some e) : e.level = n := by
  simpa using List.find?_some h

@[simp] theorem firstAt_enclose : firstAt (n + 2) (enclose c entries) =
    (firstAt (n + 1) entries).map deepen := by
  rw [firstAt, enclose, List.find?_cons_of_neg (by simp), List.find?_map, firstAt]
  congr 2
  funext e
  exact Bool.eq_iff_iff.2 (by simp [deepen])

end Entry

/-- The entries behind a success. -/
def Outcome.follow {α : Type} (o : Outcome α) (k : α → Cursor → List Entry) : List Entry :=
  match o with
  | .error _ => []
  | .ok (a, c) => k a c

@[simp] theorem Outcome.follow_error {α : Type} (f : Failure) (k : α → Cursor → List Entry) :
    follow (.error f) k = [] := rfl

@[simp] theorem Outcome.follow_ok {α : Type} (a : α) (c : Cursor) (k : α → Cursor → List Entry) :
    follow (.ok (a, c)) k = k a c := rfl

namespace Cursor

mutual

def expressionEntries (c : Cursor) : List Entry :=
  Entry.enclose c (c.descend.primaryEntries ++
    match h : c.descend.readPrimary none with
    | .error _ => []
    | .ok (_, c₁) =>
      have : c₁.remaining < c.remaining := readPrimary_lt (c := c.descend) h
      c₁.chainEntries 0)
termination_by 4 * c.remaining + 1

def primaryEntries (c : Cursor) : List Entry :=
  match h : c.kind with
  | .identifier _ =>
    have := remaining_next_lt (c := c) (by simp [h])
    have := remaining_next_le c.next
    match c.next.kind with
    | .char '(' => c.next.next.argumentsEntries
    | _ => []
  | .char '(' =>
    have := remaining_next_lt (c := c) (by simp [h])
    c.next.expressionEntries
  | _ => []
termination_by 4 * c.remaining

def argumentsEntries (c : Cursor) : List Entry :=
  match c.kind with
  | .char ')' => []
  | _ => c.argumentListEntries
termination_by 4 * c.remaining + 3

def argumentListEntries (c : Cursor) : List Entry :=
  c.expressionEntries ++
    match h : c.readExpression none with
    | .error _ => []
    | .ok (_, c₁) =>
      have := readExpression_lt h
      have := remaining_next_le c₁
      match c₁.kind with
      | .char ',' => c₁.next.argumentListEntries
      | _ => []
termination_by 4 * c.remaining + 2

def chainEntries (p : Nat) (c : Cursor) : List Entry :=
  match h : c.kind.operator? with
  | none => []
  | some (_, q) =>
    if q < p then []
    else
      have := remaining_next_lt (ne_end_of_operator h)
      c.next.primaryEntries ++
        match h' : c.next.readPrimary none with
        | .error _ => []
        | .ok (right, c₁) =>
          have := readPrimary_lt h'
          c₁.chainEntries (q + 1) ++
            match h'' : c₁.readChain none (q + 1) right with
            | .error _ => []
            | .ok (_, c₂) =>
              have := readChain_le h''
              c₂.chainEntries p
termination_by 4 * c.remaining

end

/-- Behind an argument. -/
def afterArgumentEntries (c : Cursor) : List Entry :=
  match c.kind with
  | .char ',' => c.next.argumentListEntries
  | _ => []

/-- Behind a right operand. -/
def afterOperandEntries (p q : Nat) (right : Expr) (c : Cursor) : List Entry :=
  c.chainEntries (q + 1) ++
    (c.readChain none (q + 1) right).follow fun _ c => c.chainEntries p

def definitionEntries (c : Cursor) : List Entry :=
  match c.kind with
  | .defWord => c.next.readPrototype.follow fun _ c => c.expressionEntries
  | _ => []

def itemEntries (c : Cursor) : List Entry :=
  match c.kind with
  | .endOfInput => []
  | .defWord => c.definitionEntries
  | .externWord => []
  | .char ';' => []
  | _ => c.expressionEntries

variable {c : Cursor}

theorem expressionEntries_eq (c : Cursor) : c.expressionEntries =
    Entry.enclose c (c.descend.primaryEntries ++
      (c.descend.readPrimary none).follow fun _ c => c.chainEntries 0) := by
  rw [expressionEntries]
  split <;> rename_i h <;> simp only [h, Outcome.follow]

theorem primaryEntries_call {name : String} (h : c.kind = .identifier name)
    (h' : c.next.kind = .char '(') : c.primaryEntries = c.next.next.argumentsEntries := by
  rw [primaryEntries]
  split <;> simp_all

theorem primaryEntries_reference {name : String} (h : c.kind = .identifier name)
    (h' : c.next.kind ≠ .char '(') : c.primaryEntries = [] := by
  rw [primaryEntries]
  split <;> simp_all

theorem primaryEntries_nested (h : c.kind = .char '(') :
    c.primaryEntries = c.next.expressionEntries := by
  rw [primaryEntries]
  split <;> simp_all

theorem primaryEntries_other (h : c.kind ≠ .char '(') (h' : ∀ name, c.kind ≠ .identifier name) :
    c.primaryEntries = [] := by
  rw [primaryEntries]
  split <;> simp_all

theorem argumentsEntries_none (h : c.kind = .char ')') : c.argumentsEntries = [] := by
  rw [argumentsEntries]
  split <;> simp_all

theorem argumentsEntries_some (h : c.kind ≠ .char ')') :
    c.argumentsEntries = c.argumentListEntries := by
  rw [argumentsEntries]
  split <;> simp_all

theorem argumentListEntries_eq (c : Cursor) : c.argumentListEntries =
    c.expressionEntries ++ (c.readExpression none).follow fun _ c => c.afterArgumentEntries := by
  rw [argumentListEntries]
  split <;> rename_i h <;> simp only [h, Outcome.follow, afterArgumentEntries]

theorem chainEntries_of_stopsAt {p : Nat} (h : c.kind.StopsAt p) : c.chainEntries p = [] := by
  rw [chainEntries]
  split <;> rename_i hk
  · rfl
  · rw [if_pos (h _ hk)]

theorem chainEntries_of_operator {p q : Nat} {op : Char} (h : c.kind.operator? = some (op, q))
    (hp : p ≤ q) : c.chainEntries p =
      c.next.primaryEntries ++ (c.next.readPrimary none).follow (afterOperandEntries p q) := by
  rw [chainEntries]
  split <;> rename_i hk
  · simp [h] at hk
  · obtain ⟨rfl, rfl⟩ : op = _ ∧ q = _ := by simpa [h] using hk
    rw [if_neg (Nat.not_lt.2 hp)]
    split <;> rename_i h' <;> simp only [h', Outcome.follow, afterOperandEntries]
    split <;> rename_i h'' <;> simp only [h'']

theorem afterArgumentEntries_comma (h : c.kind = .char ',') :
    c.afterArgumentEntries = c.next.argumentListEntries := by
  simp only [afterArgumentEntries, h]

theorem afterArgumentEntries_other (h : c.kind ≠ .char ',') : c.afterArgumentEntries = [] := by
  rw [afterArgumentEntries]
  split
  · contradiction
  · rfl

end Cursor

end Kaleidoscope
