import FlinkSteward.Number.Integer
import FlinkSteward.Text.Split

/-!
# Arguments

How the words of a command line are read. An option has a long name, which may be cut short where only
one option begins like that, and often a letter; letters may share one dash. A value follows an option
as the next word, or behind `=`, or right behind the letter. All other words are operands, and so are
negative numbers and words with a blank. A word `--` next to the operand is dropped, and nothing behind
it is an option.

- `Word.ofText`: what a word is
- `Grammar.read`: what a command line says, with `Reading.last?` and `Reading.has` to ask for options
-/

namespace FlinkSteward.Command

open FlinkSteward.Text

/-- What comes with an option. -/
inductive Content where
  /-- Nothing. -/
  | nothing
  /-- A text. -/
  | text
  /-- A text that stands for an integer. -/
  | integer
deriving DecidableEq, Inhabited

/-- An option that a command knows. -/
structure Switch where
  /-- The long name, which stands behind two dashes. -/
  long : String
  /-- The letter, which stands behind one dash. -/
  letter : Option Char := none
  /-- What comes with it. -/
  content : Content := .nothing
deriving DecidableEq, Inhabited

/-- The option that asks for help, which every command knows. -/
def Switch.help : Switch := { long := "help", letter := some 'h' }

/-- Whether a value comes with an option. -/
def Switch.hasValue (s : Switch) : Bool :=
  s.content ≠ .nothing

/-- What is wrong with a command line. -/
inductive Fault where
  /-- Several options begin like this word. -/
  | ambiguous (word : String)
  /-- The value of an option is missing. -/
  | lacksValue (option : String)
  /-- An option has a value that it does not take. -/
  | strayValue (option : String)
  /-- The value of an option is no integer. -/
  | notAnInteger (option value : String)
  /-- There is no such command. -/
  | unknownCommand (word : String)
  /-- An operand is missing. -/
  | missing (operand : String)
  /-- Nobody asked for these words. -/
  | surplus (words : List String)
deriving DecidableEq, Inhabited

/-- The message of a fault. -/
def Fault.message : Fault → String
  | ambiguous word => "several options begin like " ++ word
  | lacksValue option => "option --" ++ option ++ " needs a value"
  | strayValue option => "option --" ++ option ++ " takes no value"
  | notAnInteger option value => "option --" ++ option ++ " needs an integer, not " ++ value
  | unknownCommand word => "unknown command " ++ word
  | missing operand => "missing " ++ operand
  | surplus words => "unexpected: " ++ String.intercalate " " words

/-- Why a command line leads to no command. -/
inductive Stop where
  /-- It asks for help. -/
  | help
  /-- It is wrong. -/
  | refused (f : Fault)
deriving DecidableEq, Inhabited

/-! ## Words -/

/-- How a word with options ends. -/
inductive Ending where
  /-- All of it was read. -/
  | closed
  /-- The value of this option has to follow. -/
  | waiting (s : Switch)
  /-- There is no option with a letter; this is what was not read. -/
  | unknown (rest : String)
deriving DecidableEq, Inhabited

/-- What a word is. -/
inductive Word where
  /-- An operand or a value. -/
  | plain
  /-- The word behind which there are no options. -/
  | divider
  /-- Options, with their values, which for an option that takes none is empty. -/
  | options (given : List (Switch × String)) (ending : Ending)
  /-- It cannot be read. -/
  | faulty (f : Fault)
deriving DecidableEq, Inhabited

namespace Word

/-- A word with one option and a value behind `=`, if there is any. -/
def single (s : Switch) (value : Option String) : Word :=
  match value, s.hasValue with
  | some v, true => options [(s, v)] .closed
  | some _, false => faulty (.strayValue s.long)
  | none, true => options [] (.waiting s)
  | none, false => options [(s, "")] .closed

/-- A word with one more option in front. -/
def andBefore (s : Switch) : Word → Word
  | options given ending => options ((s, "") :: given) ending
  | w => w

/-- The word of an option's letter and the characters behind it. -/
def ofLetters (known : List Switch) (s : Switch) : List Char → Word
  | [] => single s none
  | c :: rest =>
    if c = '=' then single s (some (String.ofList rest))
    else if s.hasValue then single s (some (String.ofList (c :: rest)))
    else if c = '-' then faulty (.strayValue s.long)
    else
      match known.find? fun t => t.letter = some c with
      | some t => andBefore s (ofLetters known t rest)
      | none => options [(s, "")] (.unknown (String.ofList ('-' :: c :: rest)))

/-- Whether digits end here, or a point and digits do. -/
def isNumber (cs : List Char) : Bool :=
  let whole := cs.takeWhile isDecimal
  match cs.dropWhile isDecimal with
  | [] => !whole.isEmpty
  | '.' :: fraction => !fraction.isEmpty && fraction.all isDecimal
  | _ => false

/-- A word that begins with a dash and names no option: a negative number or a word with a blank is
no option at all. -/
def ofUnknown (word : String) : Word :=
  if isNumber (word.toList.drop 1) ∨ ' ' ∈ word.toList then plain
  else options [] (.unknown word)

/-- The word of a long name, or of what is there of it, and the value behind it. -/
def ofLong (known : List Switch) (word name : String) (value : Option String) : Word :=
  match known.find? fun s => s.long = name with
  | some s => single s value
  | none =>
    match known.filter fun s => name.toList.isPrefixOf s.long.toList with
    | [s] => single s value
    | [] => ofUnknown word
    | _ => faulty (.ambiguous word)

/-- What a word is where these options are known. -/
def ofText (known : List Switch) (word : String) : Word :=
  match word.toList with
  | ['-', '-'] => divider
  | '-' :: '-' :: cs =>
    match breakAt? '=' cs with
    | some (name, value) => ofLong known word (String.ofList name) (some (String.ofList value))
    | none => ofLong known word (String.ofList cs) none
  | '-' :: c :: cs =>
    match known.find? fun s => s.letter = some c with
    | some s => ofLetters known s cs
    | none => ofUnknown word
  | _ => plain

end Word

/-! ## Command lines -/

/-- The operands that a command takes. -/
inductive Operands where
  /-- None. -/
  | none
  /-- One. -/
  | one
  /-- The name of a command, and all that is behind it. -/
  | command
deriving DecidableEq, Inhabited

/-- What the words of a command line may be. -/
structure Grammar where
  /-- The options. -/
  switches : List Switch
  /-- The operands. -/
  operands : Operands
deriving DecidableEq, Inhabited

/-- What a command line says. -/
structure Reading where
  /-- The options in their order, with their values. -/
  given : List (Switch × String) := []
  /-- The operands. -/
  operands : List String := []
  /-- The words that nobody asked for. -/
  surplus : List String := []
deriving DecidableEq, Inhabited

namespace Reading

/-- The latest value of an option. -/
def last? (r : Reading) (long : String) : Option String :=
  (r.given.reverse.find? fun g => g.1.long = long).map Prod.snd

/-- Whether an option is there. -/
def has (r : Reading) (long : String) : Bool :=
  (r.last? long).isSome

/-- A reading with one more option. -/
def give (r : Reading) (g : Switch × String) : Except Stop Reading :=
  if g.1 = .help then .error .help
  else if g.1.content = .integer ∧ (Integer.ofText? g.2).isNone then
    .error (.refused (.notAnInteger g.1.long g.2))
  else .ok { r with given := r.given ++ [g] }

/-- A reading with words that nobody asked for. -/
def exceed (r : Reading) (words : List String) : Reading :=
  { r with surplus := r.surplus ++ words }

/-- The first operand. -/
def operand (r : Reading) (what : String) : Except Stop String :=
  match r.operands with
  | x :: _ => .ok x
  | [] => .error (.refused (.missing what))

end Reading

namespace Grammar

/-- Whether an operand is still to come. -/
def isOpen (g : Grammar) (r : Reading) : Bool :=
  g.operands ≠ .none && r.operands.isEmpty

/-- The reading once there can be no more options; `next` says whether an operand came just before. -/
def close (g : Grammar) (r : Reading) (next : Bool) (rest : List String) : Reading :=
  if g.operands = .command then { r with operands := "--" :: rest }
  else match rest with
    | x :: rest => if g.isOpen r then Reading.exceed { r with operands := [x] } rest
      else r.exceed (if next then x :: rest else "--" :: x :: rest)
    | [] => if next then r else r.exceed ["--"]

/-- Goes on reading a command line; `next` says whether an operand came just before. -/
def readOn (g : Grammar) (r : Reading) (next : Bool) : List String → Except Stop Reading
  | [] => .ok r
  | word :: rest =>
    match Word.ofText g.switches word with
    | .divider => .ok (g.close r next rest)
    | .plain =>
      if g.operands = .command then .ok { r with operands := word :: rest }
      else if g.isOpen r then g.readOn { r with operands := [word] } true rest
      else g.readOn (r.exceed [word]) false rest
    | .faulty f => .error (.refused f)
    | .options given ending => do
      let r ← given.foldlM Reading.give r
      match ending with
      | .closed => g.readOn r false rest
      | .unknown left => g.readOn (r.exceed [left]) false rest
      | .waiting s =>
        match rest with
        | [] => .error (.refused (.lacksValue s.long))
        | value :: rest =>
          if Word.ofText g.switches value = .plain then do
            let r ← r.give (s, value)
            g.readOn r false rest
          else .error (.refused (.lacksValue s.long))

/-- Reads a command line. -/
def read (g : Grammar) (words : List String) : Except Stop Reading :=
  g.readOn {} false words

end Grammar

end FlinkSteward.Command
