import ImportOrder.Draft
import ImportOrder.Statement

/-! Cutting clips out of a draft and putting them back in groups. -/

namespace ImportOrder

/-- Where the groups go: to the start of the text, or to where the first clip stood. -/
inductive Location
  | leading
  | auto
deriving DecidableEq, Repr

/-- The location of a name; every name but one is the start of the text. -/
def Location.ofName (name : String) : Location := if name == "auto" then .auto else .leading

/-- The line break that an option stands for; an unknown option is a line feed. -/
def terminatorOf (name : String) : Text :=
  if name == "cr" then ['\r'] else if name == "crlf" then ['\r', '\n'] else ['\n']

namespace Surgery

/-- Cut the outer spans of clips out of a draft. -/
def cut (draft : Draft) (clips : List Clip) : Except Draft.Refusal Draft :=
  -- Without clips the draft keeps its mark of a lost line break.
  if clips.isEmpty then .ok draft else draft.remove (clips.map Clip.outer)

/-- A group as text: every clip on lines of its own, and an empty line behind them on request. -/
def block (terminator : Text) (clips : List Clip) (separate : Bool) : Text :=
  clips.flatMap (fun clip => clip.value ++ terminator) ++ (if separate then terminator else [])

/-- Put one group into a draft; the result says where the inserted text ends. -/
def insertGroup (terminator : Text) (draft : Draft) (clips : List Clip) (offset : Int)
    (separate : Bool) : Except Draft.Refusal (Draft × Int) := do
  let text := block terminator clips separate
  let draft ← draft.insertAt offset text
  return (draft, offset + text.length)

/-- Whether a draft ends the line at an offset by itself. -/
def endsLine (draft : Draft) (offset : Int) : Bool :=
  draft.breakAt offset || draft.atLostBreak offset

/-- Put groups into a draft one behind the other. An empty line follows each of them, the last one
only where the draft does not end the line by itself. -/
def insertFrom (terminator : Text) (draft : Draft) (offset : Int) :
    List (List Clip) → Except Draft.Refusal Draft
  | [] => .ok draft
  | group :: rest => do
    -- The offset is that of the draft as it is now, with the groups before in it.
    let separate := !(rest.isEmpty && endsLine draft offset)
    let (draft, offset) ← insertGroup terminator draft group offset separate
    insertFrom terminator draft offset rest

/-- The least start of the clips' outer spans. -/
def firstStart (groups : List (List Clip)) : Nat :=
  match groups.flatten.map fun clip => clip.outer.start with
  | [] => 0
  | start :: rest => rest.foldl min start

/-- Put the groups that are not empty into a draft. -/
def insert (terminator : Text) (location : Location) (draft : Draft) (groups : List (List Clip)) :
    Except Draft.Refusal Draft :=
  let groups := groups.filter fun group => !group.isEmpty
  let offset := match location with
    | .leading => 0
    | .auto => firstStart groups
  insertFrom terminator draft offset groups

end Surgery

end ImportOrder
