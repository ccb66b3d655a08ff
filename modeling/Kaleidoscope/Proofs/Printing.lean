import Kaleidoscope.Proofs.Rendering
import Kaleidoscope.Statement.Basic

/-!
The text of expressions and of nodes as tokens. A tree is `Writable` if its names are names for the
grammar, its operators operators and its numbers finite without a sign; the text of such a tree is
read as the kinds that `kinds` lists, whatever word, number or mark stands behind a blank or a mark
after it (`Writable.reads`). `nesting` is how many expressions are inside one another in that text,
where each application of an operator is in parentheses.
-/

namespace Kaleidoscope

open Token.Stream

/-- Neither a word nor a numeral goes on here. -/
def Breaks (rest : List Char) : Prop :=
  ∀ c ∈ rest.head?, isWordChar c = false ∧ isNumeralChar c = false

theorem Breaks.stops {rest : List Char} (h : Breaks rest) (t : List Char) : Stops t rest :=
  ⟨fun _ c hc => (h c hc).1, fun _ c hc => (h c hc).2⟩

theorem breaks_nil : Breaks [] := by
  simp [Breaks]

theorem breaks_mark {c : Char} (h : isMark c = true) (rest : List Char) : Breaks (c :: rest) := by
  obtain ⟨-, hw, hn, -⟩ := isMark_iff.1 h
  simpa [Breaks] using ⟨hw, hn⟩

theorem breaks_blank {c : Char} (h : isBlank c = true) (rest : List Char) : Breaks (c :: rest) := by
  simpa [Breaks] using ⟨isWordChar_of_isBlank h, isNumeralChar_of_isBlank h⟩

/-! ### Expressions -/

namespace Expr

mutual

/-- How many expressions are inside one another in the text. -/
def nesting : Expr → Nat
  | number _ _ => 1
  | reference _ _ => 1
  | binary _ _ left right => Nat.max left.nesting right.nesting + 1
  | call _ _ arguments => deepest arguments + 1

def deepest : List Expr → Nat
  | [] => 0
  | e :: more => Nat.max e.nesting (deepest more)

end

mutual

/-- The kinds of token in the text. -/
def kinds : Expr → List Token.Kind
  | number _ value => [.number value]
  | reference _ name => [.identifier name]
  | binary _ op left right => .char '(' :: (left.kinds ++ .char op :: (right.kinds ++ [.char ')']))
  | call _ callee arguments =>
      .identifier callee :: .char '(' :: (listKinds arguments ++ [.char ')'])

def listKinds : List Expr → List Token.Kind
  | [] => []
  | [e] => e.kinds
  | e :: e' :: more => e.kinds ++ .char ',' :: listKinds (e' :: more)

end

/-- What the text of a program can have in it. -/
inductive Writable : Expr → Prop
  | number {l : Location} {value : Binary64} :
      value.isFinite = true → value.negative = false → Writable (.number l value)
  | reference {l : Location} {name : String} : IsName name.toList → Writable (.reference l name)
  | binary {l : Location} {op : Char} {left right : Expr} : op ∈ ['<', '+', '-', '*'] →
      Writable left → Writable right → Writable (.binary l op left right)
  | call {l : Location} {callee : String} {arguments : List Expr} : IsName callee.toList →
      (∀ e ∈ arguments, Writable e) → Writable (.call l callee arguments)

theorem le_deepest {e : Expr} {es : List Expr} (h : e ∈ es) : e.nesting ≤ deepest es := by
  induction es with
  | nil => contradiction
  | cons e' es ih =>
      rw [deepest]
      rcases List.mem_cons.1 h with rfl | h
      · exact Nat.le_max_left _ _
      · exact Nat.le_trans (ih h) (Nat.le_max_right _ _)

theorem listKinds_eq (es : List Expr) : listKinds es = [.char ','].intercalate (es.map kinds) := by
  induction es with
  | nil => rfl
  | cons e es ih =>
      cases es with
      | nil => simp [listKinds]
      | cons e' es => simpa [listKinds, List.intercalate_cons_cons] using ih

/-! ### The text -/

mutual

theorem write_append (s t : List Char) : (e : Expr) → e.write (s ++ t) = e.write s ++ t
  | number _ _ => by simp [write]
  | reference _ _ => by simp [write]
  | binary _ op left right => by
      have hright := write_append (')' :: s) t right
      have hleft := write_append (' ' :: op :: ' ' :: right.write (')' :: s)) t left
      simpa [write, ← hright] using hleft
  | call _ callee [] => by simp [write]
  | call _ callee (first :: more) => by
      have hmore := writeMore_append (')' :: s) t more
      have hfirst := write_append (writeMore (')' :: s) more) t first
      simpa [write, ← hmore] using hfirst

theorem writeMore_append (s t : List Char) : (es : List Expr) →
    writeMore (s ++ t) es = writeMore s es ++ t
  | [] => rfl
  | e :: more => by
      have hmore := writeMore_append s t more
      simp [writeMore, hmore, write_append (writeMore s more) t e]

end

theorem write_eq (e : Expr) (rest : List Char) : e.write rest = e.chars ++ rest :=
  e.write_append [] rest

theorem chars_number (l : Location) (value : Binary64) : (number l value).chars = value.chars :=
  List.append_nil _

theorem chars_reference (l : Location) (name : String) : (reference l name).chars = name.toList :=
  List.append_nil _

theorem chars_binary (l : Location) (op : Char) (left right : Expr) :
    (binary l op left right).chars =
      '(' :: (left.chars ++ ' ' :: op :: ' ' :: (right.chars ++ [')'])) := by
  rw [chars, write, write_eq left, write_eq right]

theorem chars_call (l : Location) (callee : String) (arguments : List Expr) :
    (call l callee arguments).chars =
      callee.toList ++ '(' :: ([',', ' '].intercalate (arguments.map chars) ++ [')']) := by
  cases arguments with
  | nil => simp [chars, write]
  | cons first more =>
      suffices h : first.write (writeMore [')'] more) =
          [',', ' '].intercalate ((first :: more).map chars) ++ [')'] by
        rw [chars, write, h]
      induction more generalizing first with
      | nil => simp [writeMore, write_eq first]
      | cons second more ih =>
          rw [writeMore, write_eq first, ih second]
          simp [List.intercalate_cons_cons]

theorem isMark_operator {op : Char} (h : op ∈ ['<', '+', '-', '*']) : isMark op = true := by
  simp only [List.mem_cons, List.not_mem_nil, or_false] at h
  rcases h with rfl | rfl | rfl | rfl <;> decide

end Expr

theorem reads_name {name : String} {rest : List Char} (h : IsName name.toList) (hr : Breaks rest) :
    Reads name.toList [.identifier name] rest := by
  have hcanonical : (Token.Kind.identifier name).Canonical := .identifier h
  exact reads_spells hcanonical.spells (hr.stops _)

/-- Things in parentheses, with a comma and a blank between any two. -/
theorem reads_listed {α : Type} {text : α → List Char} {kinds : α → List Token.Kind}
    {items : List α}
    (h : ∀ a ∈ items, ∀ rest, Breaks rest → Reads (text a) (kinds a) rest) (rest : List Char) :
    Reads ('(' :: ([',', ' '].intercalate (items.map text) ++ [')']))
      (.char '(' :: ([.char ','].intercalate (items.map kinds) ++ [.char ')'])) rest := by
  have hclose : Reads [')'] [.char ')'] rest := (reads_nil rest).mark (by decide)
  refine Reads.mark (Reads.append ?_ hclose) (by decide)
  refine reads_intercalate (fun more => ?_) (fun a ha more => ?_) (fun a ha => ?_)
  · exact ((reads_nil more).blank (by decide)).mark (by decide)
  · exact h a ha _ (breaks_mark (by decide) _)
  · exact h a ha _ (breaks_mark (by decide) _)

theorem Expr.Writable.reads {e : Expr} (h : e.Writable) :
    ∀ rest, Breaks rest → Reads e.chars e.kinds rest := by
  induction h with
  | @number l value hf hs =>
      intro rest hr
      have hcanonical : (Token.Kind.number value).Canonical := .number hf hs
      have hread := reads_spells hcanonical.spells (hr.stops _)
      rw [Expr.chars_number]
      exact hread
  | reference h =>
      intro rest hr
      rw [Expr.chars_reference]
      exact reads_name h hr
  | @binary l op left right hop _ _ ihl ihr =>
      intro rest hr
      have hclose : Reads [')'] [.char ')'] rest := (reads_nil rest).mark (by decide)
      have hright := (ihr _ (breaks_mark (by decide) _)).append hclose
      have hmark := (hright.blank (c := ' ') (by decide)).mark (Expr.isMark_operator hop)
      have hmiddle := hmark.blank (c := ' ') (by decide)
      have hleft := (ihl _ (breaks_blank (by decide) _)).append hmiddle
      rw [Expr.chars_binary, Expr.kinds]
      exact hleft.mark (by decide)
  | @call l callee arguments hname _ ih =>
      intro rest hr
      rw [Expr.chars_call, Expr.kinds, Expr.listKinds_eq]
      exact (reads_name hname (breaks_mark (by decide) _)).append (reads_listed ih rest)

/-! ### Nodes -/

/-- A name and parameters that the text of a program can have. -/
structure Prototype.Writable (p : Prototype) : Prop where
  name : IsName p.name.toList
  parameters : ∀ x ∈ p.parameters, IsName x.toList

def Prototype.kinds (p : Prototype) : List Token.Kind :=
  .identifier p.name :: .char '(' ::
    ([.char ','].intercalate (p.parameters.map ([.identifier ·])) ++ [.char ')'])

/-- A function without a name has no parameters, and an external declaration has a name. -/
inductive Node.Writable : Node → Prop
  | external {p : Prototype} : p.Writable → Writable (.external p)
  | definition {f : Function} : f.prototype.Writable → f.body.Writable → Writable (.function f)
  | expression {f : Function} : f.prototype.name = "" → f.prototype.parameters = [] →
      f.body.Writable → Writable (.function f)

def Node.kinds : Node → List Token.Kind
  | external p => .externWord :: p.kinds
  | function f =>
    if f.prototype.isAnonymous then f.body.kinds
    else .defWord :: (f.prototype.kinds ++ f.body.kinds)

/-- How many expressions are inside one another in the text. -/
def Node.nesting : Node → Nat
  | external _ => 0
  | function f => f.body.nesting

theorem Prototype.Writable.not_isAnonymous {p : Prototype} (h : p.Writable) :
    p.isAnonymous = false := by
  cases hp : p.isAnonymous with
  | false => rfl
  | true =>
      have hname : p.name = "" := by simpa [isAnonymous] using hp
      exact absurd (by rw [hname]; rfl) h.name.1.1

theorem Prototype.Writable.reads {p : Prototype} (h : p.Writable) (rest : List Char) :
    Reads p.chars p.kinds rest := by
  have hlist := reads_listed (fun x hx _ hr => reads_name (h.parameters x hx) hr) rest
  have hread := (reads_name h.name (breaks_mark (by decide) _)).append hlist
  simpa [chars, kinds] using hread

namespace Node

variable {f : Function}

theorem chars_external (p : Prototype) :
    (external p).chars = ['e', 'x', 't', 'e', 'r', 'n'] ++ [' '] ++ p.chars := rfl

theorem chars_named (h : f.prototype.isAnonymous = false) : (function f).chars =
    ['d', 'e', 'f'] ++ [' '] ++ (f.prototype.chars ++ ' ' :: f.body.chars) :=
  (if_neg (by simp [h])).trans (List.append_assoc _ _ _)

theorem chars_anonymous (h : f.prototype.isAnonymous = true) :
    (function f).chars = f.body.chars :=
  if_pos h

theorem kinds_named (h : f.prototype.isAnonymous = false) :
    (function f).kinds = .defWord :: (f.prototype.kinds ++ f.body.kinds) :=
  if_neg (by simp [h])

theorem kinds_anonymous (h : f.prototype.isAnonymous = true) :
    (function f).kinds = f.body.kinds :=
  if_pos h

end Node

theorem Prototype.isAnonymous_of_name {p : Prototype} (h : p.name = "") : p.isAnonymous = true := by
  simp [isAnonymous, h]

/-- A word and the blank behind it. -/
theorem reads_word {word : List Char} {k : Token.Kind} (h : Spells word k) (rest : List Char) :
    Reads (word ++ [' ']) [k] rest := by
  have hblank : Reads [' '] [] rest := (reads_nil rest).blank (by decide)
  exact (reads_spells h ((breaks_blank (by decide) _).stops word)).append hblank

theorem Node.Writable.reads {n : Node} (h : n.Writable) {rest : List Char} (hr : Breaks rest) :
    Reads n.chars n.kinds rest := by
  cases h with
  | external h =>
      rw [Node.chars_external]
      exact (reads_word .externWord _).append (h.reads rest)
  | definition hp he =>
      have hbody := (he.reads rest hr).blank (c := ' ') (by decide)
      rw [Node.chars_named hp.not_isAnonymous, Node.kinds_named hp.not_isAnonymous]
      exact (reads_word .defWord _).append ((hp.reads _).append hbody)
  | expression hname _ he =>
      have hanonymous := Prototype.isAnonymous_of_name hname
      rw [Node.chars_anonymous hanonymous, Node.kinds_anonymous hanonymous]
      exact he.reads rest hr

/-- The texts of nodes with a `;` and a blank between any two, up to the end. -/
theorem reads_nodes {nodes : List Node} (h : ∀ n ∈ nodes, n.Writable) :
    Reads ("; ".intercalate (nodes.map Node.display)).toList
      ([.char ';'].intercalate (nodes.map Node.kinds)) [] := by
  have htext : ("; ".intercalate (nodes.map Node.display)).toList =
      [';', ' '].intercalate (nodes.map Node.chars) := by
    rw [String.toList_intercalate, List.map_map]
    congr 1
    exact List.map_congr_left fun n _ => String.toList_ofList
  rw [htext]
  refine reads_intercalate (fun more => ?_) (fun n hn more => ?_) (fun n hn => ?_)
  · exact ((reads_nil more).blank (by decide)).mark (by decide)
  · exact (h n hn).reads (breaks_mark (by decide) _)
  · exact (h n hn).reads breaks_nil

end Kaleidoscope
