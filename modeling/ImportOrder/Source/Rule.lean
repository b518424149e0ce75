import ImportOrder.Source.Cursor

/-! Grammar rules as data, and the reading of a source by them. -/

namespace ImportOrder

/-- A rule over symbols `σ`. Of two alternatives the first that fits is taken. -/
inductive Rule (σ : Type)
  | empty
  | never
  -- Blanks may stand in front of a literal, but not in front of an exact text.
  | exact (text : String)
  | literal (text : String)
  | mark (text : String)
  | word (text : String)
  | lexeme (kind : Lexeme)
  | sameLine
  | lineEnd
  | both (first second : Rule σ)
  | either (first second : Rule σ)
  | many (rule : Rule σ)
  | ahead (rule : Rule σ)
  | unless (rule : Rule σ)
  | node (kind : String) (rule : Rule σ)
  | role (name : String) (rule : Rule σ)
  | ref (symbol : σ)

/-- A reading under way: the nodes read so far, the last one first, and the place reached. -/
structure Scan where
  nodes : List Node
  cursor : Cursor

namespace Scan

/-- Add comments and move on. -/
def pass (scan : Scan) (comments : List Node) (cursor : Cursor) : Scan :=
  ⟨comments.reverse ++ scan.nodes, cursor⟩

/-- Pass over the blanks and comments in front of the next word. -/
def passBlanks (scan : Scan) : Scan :=
  let (comments, cursor) := scan.cursor.comments
  scan.pass comments cursor

/-- Take some characters as one node. -/
def take (scan : Scan) (kind : String) (count : Nat) : Scan :=
  let behind := scan.cursor.advance count
  ⟨Cursor.nodeTo kind scan.cursor behind :: scan.nodes, behind⟩

/-- Take a text that stands at the place reached. -/
def here? (scan : Scan) (text : String) : Option Scan :=
  -- No blanks are passed over: inside templates they are text.
  if Text.startsWith scan.cursor.rest text.toList then some (scan.take text text.length) else none

/-- Take a mark behind blanks, if no longer mark stands there. -/
def mark? (scan : Scan) (text : String) : Option Scan :=
  let next := scan.passBlanks
  if punctuator? next.cursor.rest == some text then some (next.take text text.length) else none

/-- Take a word behind blanks, if no longer word stands there. -/
def word? (scan : Scan) (text : String) : Option Scan :=
  let next := scan.passBlanks
  match Text.after? text.toList next.cursor.rest with
  | none => none
  -- A word that goes on is another word.
  | some rest => if rest.head?.any isNameChar then none else some (next.take text text.length)

/-- Take a word of a kind. -/
def lexeme? (scan : Scan) (kind : Lexeme) : Option Scan :=
  let next := if kind.passesBlanks then scan.passBlanks else scan
  (kind.length? next.cursor.rest).map (next.take kind.kind)

/-- The node over some children: from the first to the last. -/
def wrap (kind : String) (children : List Node) (cursor : Cursor) : Node :=
  { kind
    -- A node without children lies where its reading began.
    start := (children.head?.map Node.start).getD cursor.offset
    stop := (children.getLast?.map Node.stop).getD cursor.offset
    children }

end Scan

namespace Rule

variable {σ : Type}

/-- Rules one after the other. -/
def seq : List (Rule σ) → Rule σ
  | [] => .empty
  | [rule] => rule
  | rule :: rest => .both rule (seq rest)

/-- The first rule that fits. -/
def oneOf : List (Rule σ) → Rule σ
  | [] => .never
  | [rule] => rule
  | rule :: rest => .either rule (oneOf rest)

/-- A rule that may fit or not. -/
def optional (rule : Rule σ) : Rule σ := .either rule .empty

/-- A rule at least once, with marks between. -/
def separated (mark : String) (rule : Rule σ) : Rule σ :=
  .both rule (.many (.both (.mark mark) rule))

/-- A rule any number of times, with commas between and perhaps one at the end. -/
def listed (rule : Rule σ) : Rule σ :=
  .optional (.both (separated "," rule) (.optional (.mark ",")))

/-- One of some words. -/
def words (texts : List String) : Rule σ := oneOf (texts.map .word)

/-- One of some marks. -/
def marks (texts : List String) : Rule σ := oneOf (texts.map .mark)

/-- Read by a rule, as deep as the fuel lasts. -/
def run (grammar : σ → Rule σ) : (fuel : Nat) → Rule σ → Scan → Option Scan
  | 0, _, _ => none
  | fuel + 1, rule, scan =>
    match rule with
    | .empty => some scan
    | .never => none
    | .exact text => scan.here? text
    | .literal text => scan.passBlanks.here? text
    | .mark text => scan.mark? text
    | .word text => scan.word? text
    | .lexeme kind => scan.lexeme? kind
    | .sameLine => if scan.cursor.sameLine then some scan else none
    | .lineEnd => scan.cursor.lineEnd?.map fun (comments, cursor) => scan.pass comments cursor
    | .both first second => (run grammar fuel first scan).bind (run grammar fuel second)
    -- The first alternative that fits is kept, even if what follows does not fit.
    | .either first second =>
      match run grammar fuel first scan with
      | some next => some next
      | none => run grammar fuel second scan
    | .many rule =>
      match run grammar fuel rule scan with
      | none => some scan
      | some next =>
        -- A round that takes nothing ends the repetition, else it would go on for ever.
        if scan.cursor.offset < next.cursor.offset then run grammar fuel (.many rule) next
        else some scan
    -- Looking ahead takes nothing.
    | .ahead rule => (run grammar fuel rule scan).map fun _ => scan
    | .unless rule => if (run grammar fuel rule scan).isSome then none else some scan
    -- The children are read into an empty list, so that none in front gets in.
    | .node kind rule =>
      (run grammar fuel rule ⟨[], scan.cursor⟩).map fun next =>
        ⟨Scan.wrap kind next.nodes.reverse scan.cursor :: scan.nodes, next.cursor⟩
    | .role name rule =>
      (run grammar fuel rule ⟨[], scan.cursor⟩).map fun next =>
        ⟨next.nodes.map (fun node =>
            -- Comments in front of the part are read with it but do not play its role.
            if node.kind == Cursor.commentKind then node else { node with role := some name }) ++
          scan.nodes, next.cursor⟩
    | .ref symbol => run grammar fuel (grammar symbol) scan

end Rule

end ImportOrder
