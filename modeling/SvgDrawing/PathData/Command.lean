import SvgDrawing.PathData.Literal

/-!
# Commands

Path data is a list of commands, each a letter followed by its arguments, and `tokenize`
cuts it there.  A command letter in lower case counts coordinates from the current
point.

Twenty letters are commands; the pen knows fourteen of them.  A command given by a text
of its own is identified by the upper case of that text, and besides the fourteen
letters there is one more text whose upper case is among them: `ſ`, the long s.

What a command does is its `Verb`, which also says how many values one repetition takes.
-/

namespace SvgDrawing.PathData

open Text

/-- What a command makes the pen do. -/
inductive Verb where
  | moveTo
  | lineTo
  | cubicTo
  | verticalTo
  | horizontalTo
  | smoothTo
  | closePath
  deriving DecidableEq

/-- The number of values that one repetition of a command uses up. -/
def Verb.arity : Verb → Nat
  | moveTo | lineTo => 2
  | cubicTo => 6
  | verticalTo | horizontalTo => 1
  | smoothTo => 4
  | closePath => 0

/-- A command: a verb, and whether coordinates count from the current point. -/
structure Command where
  verb : Verb
  relative : Bool
  deriving DecidableEq

namespace Command

/-- The command of a letter. -/
def ofLetter? : Char → Option Command
  | 'M' => some ⟨.moveTo, false⟩
  | 'm' => some ⟨.moveTo, true⟩
  | 'L' => some ⟨.lineTo, false⟩
  | 'l' => some ⟨.lineTo, true⟩
  | 'C' => some ⟨.cubicTo, false⟩
  | 'c' => some ⟨.cubicTo, true⟩
  | 'V' => some ⟨.verticalTo, false⟩
  | 'v' => some ⟨.verticalTo, true⟩
  | 'H' => some ⟨.horizontalTo, false⟩
  | 'h' => some ⟨.horizontalTo, true⟩
  | 'S' => some ⟨.smoothTo, false⟩
  | 's' | 'ſ' => some ⟨.smoothTo, true⟩
  | 'Z' => some ⟨.closePath, false⟩
  | 'z' => some ⟨.closePath, true⟩
  | _ => none

/-- The command that a text stands for: only a single letter does. -/
def ofText? (s : String) : Option Command :=
  match s.toList with
  | [c] => ofLetter? c
  | _ => none

/-- The values that a command gets, a positive number of repetitions.  `name` is the command
as it was given.  A command without values of its own ignores its arguments. -/
def arguments (command : Command) (name : String) (text : List Char) :
    Except ConversionError (List Double) :=
  let arity := command.verb.arity
  if arity = 0 then .ok []
  else
    match numbers text none with
    | (_, some e) => .error e
    | (values, none) =>
      let bare := strip (text.map fun c => if c = ',' then ' ' else c)
      if values.isEmpty && !bare.isEmpty then
        .error (.malformedNumber (String.ofList bare))
      else if values.length < arity || values.length % arity != 0 then
        .error (.arityMismatch name arity values.length)
      else .ok values

end Command

/-! ## Tokens -/

/-- The letters that begin a command, known to the pen or not. -/
def isCommandLetter (c : Char) : Bool := "MmLlCcVvHhSsQqTtAaZz".toList.contains c

/-- A command letter with the text up to the next one. -/
structure Token where
  letter : Char
  arguments : List Char
  deriving DecidableEq

namespace Token

/-- The token as it was written. -/
def text (t : Token) : List Char := t.letter :: t.arguments

/-- The text in front of the first command letter and the tokens after it. -/
def cut : List Char → List Char × List Token
  | [] => ([], [])
  | c :: rest =>
    let (front, tokens) := cut rest
    if isCommandLetter c then ([], ⟨c, front⟩ :: tokens) else (c :: front, tokens)

end Token

/-- Nothing is lost: the front and the tokens as they were written make up the text. -/
theorem Token.append_cut (s : List Char) : (cut s).1 ++ (cut s).2.flatMap text = s := by
  induction s with
  | nil => rfl
  | cons c rest ih =>
    simp only [cut]
    split <;> simp_all [text]

/-- The commands of path data in order.  Text in front of the first one is ignored. -/
def tokenize (s : List Char) : List Token := (Token.cut s).2

end SvgDrawing.PathData
