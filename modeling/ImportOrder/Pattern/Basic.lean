import ImportOrder.Text.Basic
import ImportOrder.Text.Digits

/-! Regular expressions: what they are made of and how long their matches are. -/

namespace ImportOrder.Pattern

/-- The flags under which a part of a pattern is read. -/
structure Flags where
  ignoreCase : Bool := false
  multiline : Bool := false
  dotAll : Bool := false
  verbose : Bool := false
  ascii : Bool := false
deriving DecidableEq, Repr

/-- The classes of characters with a name. -/
inductive Category
  | digit
  | space
  | word
deriving DecidableEq, Repr

/-- A member of a set of characters. -/
inductive Member
  | one (code : Nat)
  | between (low high : Nat)
  | category (kind : Category) (negated : Bool)
deriving DecidableEq, Repr

/-- A place in the text that a pattern can ask for. -/
inductive Anchor
  | lineStart
  | lineEnd
  | textStart
  | textEnd
  | boundary
  | noBoundary
deriving DecidableEq, Repr

/-- How a repetition chooses its length: longest first, shortest first, or longest only. -/
inductive Greed
  | greedy
  | reluctant
  | possessive
deriving DecidableEq, Repr

/-- A part of a pattern. -/
inductive Part
  | char (flags : Flags) (code : Nat) (negated : Bool)
  | any (dotAll : Bool)
  | set (flags : Flags) (negated : Bool) (members : List Member)
  | anchor (flags : Flags) (place : Anchor)
  | group (index : Option Nat) (body : List Part)
  | branch (alternatives : List (List Part))
  | loop (greed : Greed) (least : Nat) (most : Option Nat) (body : List Part)
  | look (ahead negated : Bool) (body : List Part)
  | atomic (body : List Part)
  | reference (flags : Flags) (index : Nat)
  | conditional (index : Nat) (yes no : List Part)
deriving Repr

/-- The least and the greatest length of a match, where none is no bound. -/
structure Width where
  least : Nat
  most : Option Nat
deriving DecidableEq, Repr

namespace Width

/-- One part behind another. -/
def add (a b : Width) : Width :=
  ⟨a.least + b.least, do return (← a.most) + (← b.most)⟩

/-- One part or another. -/
def or (a b : Width) : Width :=
  ⟨min a.least b.least, do return max (← a.most) (← b.most)⟩

/-- A part a number of times. -/
def times (a : Width) (least : Nat) (most : Option Nat) : Width :=
  let top := match a.most with
    | some 0 => some 0
    | other => do return (← other) * (← most)
  ⟨a.least * least, top⟩

end Width

mutual

/-- The width of a part, where `widths` holds those of the groups. -/
def Part.width (widths : List (Nat × Width)) : Part → Width
  | .char .. => ⟨1, some 1⟩
  | .any _ => ⟨1, some 1⟩
  | .set .. => ⟨1, some 1⟩
  | .anchor .. => ⟨0, some 0⟩
  | .group _ body => widthAll widths body
  | .branch alternatives => widthAny widths alternatives
  | .loop _ least most body => (widthAll widths body).times least most
  | .look .. => ⟨0, some 0⟩
  | .atomic body => widthAll widths body
  | .reference _ index =>
    match widths.find? fun (known, _) => known == index with
    | some (_, width) => width
    | none => ⟨0, none⟩
  | .conditional _ yes no => (widthAll widths yes).or (widthAll widths no)

/-- The width of parts one behind the other. -/
def widthAll (widths : List (Nat × Width)) : List Part → Width
  | [] => ⟨0, some 0⟩
  | part :: rest => (Part.width widths part).add (widthAll widths rest)

/-- The width of alternatives. -/
def widthAny (widths : List (Nat × Width)) : List (List Part) → Width
  | [] => ⟨0, some 0⟩
  | [parts] => widthAll widths parts
  | parts :: rest => (widthAll widths parts).or (widthAny widths rest)

end

mutual

/-- The number of parts of a part, a repetition counting its least number too. -/
def Part.weight : Part → Nat
  | .group _ body => weightAll body + 1
  | .branch alternatives => weightAny alternatives + 1
  | .loop _ least _ body => weightAll body + least + 2
  | .look _ _ body => weightAll body + 1
  | .atomic body => weightAll body + 1
  | .conditional _ yes no => weightAll yes + weightAll no + 1
  | _ => 1

/-- The number of parts of a sequence. -/
def weightAll : List Part → Nat
  | [] => 0
  | part :: rest => Part.weight part + weightAll rest + 1

/-- The number of parts of alternatives. -/
def weightAny : List (List Part) → Nat
  | [] => 0
  | parts :: rest => weightAll parts + weightAny rest + 1

end

mutual

/-- Whether every look behind has one width only. -/
def Part.fixedBehind (widths : List (Nat × Width)) : Part → Bool
  | .group _ body => fixedBehindAll widths body
  | .branch alternatives => fixedBehindAny widths alternatives
  | .loop _ _ _ body => fixedBehindAll widths body
  | .look ahead _ body =>
    let width := widthAll widths body
    (ahead || width.most == some width.least) && fixedBehindAll widths body
  | .atomic body => fixedBehindAll widths body
  | .conditional _ yes no => fixedBehindAll widths yes && fixedBehindAll widths no
  | _ => true

/-- Whether every look behind in a sequence has one width only. -/
def fixedBehindAll (widths : List (Nat × Width)) : List Part → Bool
  | [] => true
  | part :: rest => Part.fixedBehind widths part && fixedBehindAll widths rest

/-- Whether every look behind in alternatives has one width only. -/
def fixedBehindAny (widths : List (Nat × Width)) : List (List Part) → Bool
  | [] => true
  | parts :: rest => fixedBehindAll widths parts && fixedBehindAny widths rest

end

/-- What is wrong with a pattern, and at which offset. -/
structure Fault where
  problem : String
  position : Option Nat := none
deriving DecidableEq, Repr

/-- A fault in words; a pattern of several lines also tells line and column. -/
def Fault.message (pattern : Text) (fault : Fault) : String :=
  match fault.position with
  | none => fault.problem
  | some position =>
    let placed := s!"{fault.problem} at position {position}"
    if pattern.contains '\n' then
      let before := pattern.take position
      let line := before.count '\n' + 1
      let column := (before.reverse.takeWhile (· != '\n')).length + 1
      s!"{placed} (line {line}, column {column})"
    else placed

/-- A number of repetitions that cannot be used at all: it is beyond every bound, or has more digits
than are read. -/
inductive Excess
  | repetitions
  | digits (count : Nat)
deriving DecidableEq, Repr

/-- An excess in words. -/
def Excess.message : Excess → String
  | .repetitions => "the repetition number is too large"
  | .digits count => longIntegerMessage count

/-- Why a text writes no pattern: it has a fault, or asks for too much. -/
inductive Refusal
  | fault (fault : Fault)
  | excess (excess : Excess)
deriving DecidableEq, Repr

end ImportOrder.Pattern

namespace ImportOrder

/-- A pattern ready for use: its parts, the number of its groups, and the widths of these. -/
structure Pattern where
  parts : List Pattern.Part
  groups : Nat
  widths : List (Nat × Pattern.Width)
deriving Repr

end ImportOrder
