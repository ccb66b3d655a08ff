import Kaleidoscope.Journal.Directive

/-!
Filters of a journal: lists of directives. A directive with no stage that does not ask what a
detail is applies to each record by itself, and of all that apply the most specific one decides.
A directive with a stage or a condition applies to all that a stage does, from its opening on. No
record passes above the highest threshold of all directives.
-/

namespace Kaleidoscope.Journal

structure Filter where
  directives : List Directive

namespace Directive

def coversTarget (d : Directive) (target : String) : Bool :=
  d.target.all (·.toList.isPrefixOf target.toList)

/-- Whether the detail that the condition is about is there. -/
def findsKey (d : Directive) (keys : List String) : Bool :=
  d.condition.all fun condition => keys.contains condition.key

/-- Whether a directive applies to all that a stage does. -/
def isScoped (d : Directive) : Bool :=
  d.stage.isSome || d.condition.isSome

def hasExpectation (d : Directive) : Bool :=
  d.condition.any (·.expected.isSome)

/-- Whether a directive applies to records by themselves. -/
def isPlain (d : Directive) : Bool :=
  d.stage.isNone && !d.hasExpectation

def targetSize (d : Directive) : Nat :=
  d.target.elim 0 (·.utf8ByteSize + 1)

/-- The order of text by the numbers of its characters. -/
def comesFirst : List Char → List Char → Bool
  | [], _ => true
  | _ :: _, [] => false
  | a :: as, b :: bs => a.toNat < b.toNat || (a = b && comesFirst as bs)

/-- A longer target is more specific; then, a condition is; and of two conditions, the one with
the later key. -/
def atMostAsSpecific (d e : Directive) : Bool :=
  if d.targetSize ≠ e.targetSize then d.targetSize < e.targetSize
  else
    match d.condition, e.condition with
    | none, _ => true
    | some _, none => false
    | some a, some b => comesFirst a.key.toList b.key.toList

/-- The threshold of the most specific of some directives; of equals the last one decides. -/
def decisive (directives : List Directive) : Threshold :=
  (directives.foldl
    (fun best d => if best.all (·.atMostAsSpecific d) then some d else best)
    none).bind (·.threshold)

/-- Whether two directives differ in their thresholds at most. -/
def sameScope (d e : Directive) : Bool :=
  d.target = e.target && d.stage = e.stage && d.condition = e.condition

end Directive

def Stage.keys (stage : Stage) : List String :=
  stage.details.map (·.key)

def Note.keys (note : Note) : List String :=
  "message" :: note.details.map (·.key)

/-- Whether a directive applies to what a stage does. -/
def Directive.scopes (d : Directive) (stage : Stage) : Bool :=
  d.coversTarget stage.target && d.stage.all (· = stage.name) && d.findsKey stage.keys

/-- Whether the details of a stage are what a directive expects. -/
def Directive.meets (d : Directive) (stage : Stage) : Bool :=
  d.condition.all fun condition => condition.expected.all fun expected =>
    stage.details.any fun detail =>
      detail.key = condition.key && expected.holds detail.content

namespace Filter

def plain (f : Filter) : List Directive :=
  f.directives.filter (·.isPlain)

/-- The directives for stages that a later one does not replace. -/
def forStages (f : Filter) : List Directive :=
  (f.directives.filter (·.isScoped)).reverse.eraseDupsBy Directive.sameScope

/-- What no record passes above. There is no such limit if a directive asks what a detail is,
since that is known only once its stage has opened. -/
def ceiling (f : Filter) : Threshold :=
  if f.directives.any (·.hasExpectation) then some .trace
  else (f.directives.map (·.threshold)).foldl Threshold.max none

/-- How much of what a stage does the directives for stages show. -/
def within (f : Filter) (stage : Stage) : Threshold :=
  (f.forStages.filter fun d => d.scopes stage && d.meets stage).foldl
    (fun t d => t.max d.threshold) none

/-- Whether the opening of a stage is shown, which is a record of the level `info`. A directive
for the stage shows it whatever its threshold. -/
def opens (f : Filter) (stage : Stage) : Bool :=
  f.ceiling.admits .info &&
    (f.forStages.any (·.scopes stage) ||
      (Directive.decisive (f.plain.filter (·.coversTarget stage.target))).admits .info)

/-- Whether a note is shown, by itself or for its stage. -/
def shows (f : Filter) (note : Note) : Bool :=
  f.ceiling.admits note.level &&
    ((Directive.decisive (f.plain.filter fun d =>
        d.coversTarget note.stage.target && d.findsKey note.keys)).admits note.level ||
      (f.opens note.stage && (f.within note.stage).admits note.level))

/-- The filter that treats all records alike. -/
def upTo (threshold : Threshold) : Filter :=
  ⟨[⟨none, none, none, threshold⟩]⟩

theorem ceiling_upTo (t : Threshold) : (upTo t).ceiling = t := by
  cases t <;> rfl

theorem within_upTo (t : Threshold) (stage : Stage) : (upTo t).within stage = none :=
  rfl

theorem opens_upTo (t : Threshold) (stage : Stage) : (upTo t).opens stage = t.admits .info := by
  have h : (upTo t).opens stage = ((upTo t).ceiling.admits .info && t.admits .info) := rfl
  rw [h, ceiling_upTo, Bool.and_self]

theorem shows_upTo (t : Threshold) (note : Note) : (upTo t).shows note = t.admits note.level := by
  have h : (upTo t).shows note = ((upTo t).ceiling.admits note.level &&
      (t.admits note.level || ((upTo t).opens note.stage && false))) := rfl
  rw [h, ceiling_upTo, Bool.and_false, Bool.or_false, Bool.and_self]

/-- The filter that a text holds: directives with commas between them. Without any, errors are
shown. -/
def ofText? (text : String) : Option Filter := do
  match ← ((text.toList.splitOn ',').filter (!·.isEmpty)).mapM Directive.ofText? with
  | [] => return upTo (some .error)
  | directives => return ⟨directives⟩

end Filter

end Kaleidoscope.Journal
