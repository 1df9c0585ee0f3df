import Introspection.Path
import Introspection.Text.Digit

/-!
# Command lines

A command line starts with switches of the program, names a command, and goes on with switches of
the command and its one operand, in any order. Switches follow the usual conventions:

* a long switch may be shortened as long as it stays unambiguous;
* the argument of a switch is the next word, or follows an equals sign; behind a short switch it
  may follow directly;
* short switches without arguments may be joined to one word, and the last of them may take one;
* a bare double dash ends the switches, and attached to a switch it is no argument at all;
* a word that looks like a negative number, or has a space in it, is no unknown switch.

What each word is, is decided first for all words of a level; only then are switches obeyed from
left to right. A request for help ends the reading where it stands, before anything that is
missing or left over is noticed.

## Main definitions

* `Command.Supplied` — the argument of a switch
* `Command.Arguments`, `Command.Task` — what a command line asks for
* `Command.Refusal` — why nothing is done
* `Command.Word`, `Command.readWords` — words by what they are
* `Command.parse`
-/

namespace Introspection.Command

/-- The argument of a switch. -/
inductive Supplied (α : Type) where
  /-- The switch is not on the command line. -/
  | nothing
  /-- The switch has a double dash in the place of its argument. -/
  | blank
  | argument (value : α)
deriving DecidableEq, Inhabited, Repr

/-- The argument of a switch in another form. -/
def Supplied.map {α β : Type} (f : α → β) : Supplied α → Supplied β
  | .nothing => .nothing
  | .blank => .blank
  | .argument value => .argument (f value)

/-- The argument of a switch, if it has one. -/
def Supplied.value? {α : Type} : Supplied α → Option α
  | .argument value => some value
  | _ => none

/-- What is to be done. -/
inductive Task where
  | emit (declarations : Path) (output : Supplied Path)
  | stubs (document : Path) (output : Option Path) (root : Option String)
deriving DecidableEq, Inhabited, Repr

/-- What a command line asks for. -/
structure Arguments where
  verbose : Bool
  logFile : Supplied Path
  /-- The configuration file, or the directory that holds it. -/
  config : Supplied Path
  task : Task
deriving DecidableEq, Inhabited, Repr

/-- Why a command line leads to nothing. -/
inductive Refusal where
  | help
  | misuse
deriving DecidableEq, Inhabited, Repr

/-- The switches that take an argument. -/
inductive Setting where
  | logFile
  | config
  | output
  | root
deriving DecidableEq, Inhabited, Repr

/-- What a switch does. -/
inductive Switch where
  | help
  | verbose
  | takes (setting : Setting)
deriving DecidableEq, Inhabited, Repr

/-- The spellings of switches. -/
abbrev Switches := List (String × Switch)

/-- The switches that go everywhere. -/
def commonSwitches : Switches :=
  [("-h", .help), ("--help", .help), ("-v", .verbose), ("--verbose", .verbose)]

/-- The switches in front of the command. -/
def programSwitches : Switches :=
  commonSwitches ++ [("--log-file", .takes .logFile)]

/-- The switches of the emit command. -/
def emitSwitches : Switches :=
  commonSwitches ++
    [("--config", .takes .config), ("-o", .takes .output), ("--output", .takes .output)]

/-- The switches of the stubs command. -/
def stubsSwitches : Switches :=
  commonSwitches ++
    [("--config", .takes .config), ("-o", .takes .output), ("--output-dir", .takes .output),
      ("--root", .takes .root)]

/-- How command lines are written. -/
def usage : String :=
  "usage: stubsmith [-h] [-v] [--log-file LOG_FILE] {emit,stubs} ...\n" ++
  "       stubsmith emit [-h] [-v] [--config CONFIG] [-o OUTPUT] declarations\n" ++
  "       stubsmith stubs [-h] [-v] [--config CONFIG] [-o OUTPUT_DIR] [--root ROOT] metadata\n"

/-! ### Words -/

/-- What a word of the command line is. -/
inductive Word where
  | operand
  | separator
  /-- A switch, and the rest of its word. -/
  | switch (switch : Switch) (short : Bool) (attached : Option (List Char))
  /-- A switch that this level does not know. -/
  | unknown
deriving DecidableEq, Inhabited, Repr

/-- What stands before the first equals sign, and what behind it if there is one. -/
def splitEquals (text : List Char) : List Char × Option (List Char) :=
  (text.takeWhile (· ≠ '='),
    match text.dropWhile (· ≠ '=') with
    | [] => none
    | _ :: value => some value)

/-- Whether a word behind its dash is a number, with or without a decimal point. A line feed at
its end does not matter. -/
def isNumber (text : List Char) : Bool :=
  let text := if text.getLast? = some '\n' then text.dropLast else text
  match text.dropWhile Text.isDigit with
  | [] => !text.isEmpty
  | '.' :: decimals => !decimals.isEmpty && decimals.all Text.isDigit
  | _ => false

/-- The switches that a long word may be short for. -/
def longReadings (switches : Switches) (text : List Char) : List Word :=
  let (name, value) := splitEquals text
  (switches.filter fun entry => name.isPrefixOf entry.1.toList).map fun entry =>
    .switch entry.2 false value

/-- The short switch that a word starts with, with the rest of the word attached. -/
def shortReadings (switches : Switches) (letter : Char) (rest : List Char) : List Word :=
  match switches.lookup (String.ofList ['-', letter]) with
  | some switch => [.switch switch true (some rest)]
  | none => []

/-- The switch that a word names exactly, alone or before an equals sign. -/
def exactReading? (switches : Switches) (text : List Char) (short : Bool) : Option Word :=
  match switches.lookup (String.ofList text) with
  | some switch => some (.switch switch short none)
  | none =>
    match splitEquals text with
    | (name, some value) =>
      (switches.lookup (String.ofList name)).map fun switch => .switch switch short (some value)
    | (_, none) => none

/-- What a word is that is no separator. -/
def readWord (switches : Switches) (text : List Char) : Except Refusal Word :=
  match text with
  | '-' :: letter :: rest =>
    match exactReading? switches text (letter ≠ '-') with
    | some word => .ok word
    | none =>
      match (if letter = '-' then longReadings switches text
          else shortReadings switches letter rest) with
      | [word] => .ok word
      | [] => .ok (if isNumber (letter :: rest) || text.contains ' ' then .operand else .unknown)
      | _ => .error .misuse
  | _ => .ok .operand

/-- The words of a level with what they are. Behind a separator all are operands. -/
def readWords (switches : Switches) : List String → Except Refusal (List (String × Word))
  | [] => return []
  | text :: rest =>
    if text = "--" then return (text, .separator) :: rest.map fun text => (text, .operand)
    else do
      let word ← readWord switches text.toList
      let words ← readWords switches rest
      return (text, word) :: words

/-! ### Obeying switches -/

/-- What has been given so far on a level. -/
structure Given where
  verbose : Bool := false
  logFile : Supplied String := .nothing
  config : Supplied String := .nothing
  output : Supplied String := .nothing
  root : Supplied String := .nothing
  operand : Option String := none
  /-- Whether something was left over. -/
  stray : Bool := false
deriving DecidableEq, Inhabited, Repr

/-- Gives a setting its argument; the last one counts. -/
def Given.set (given : Given) (setting : Setting) (text : String) : Given :=
  let supplied : Supplied String := if text = "--" then .blank else .argument text
  match setting with
  | .logFile => { given with logFile := supplied }
  | .config => { given with config := supplied }
  | .output => { given with output := supplied }
  | .root => { given with root := supplied }

/-- What a word of switches asks for: flags, an argument given in the word itself, or a last switch
that still waits for its argument. -/
structure Demand where
  help : Bool := false
  verbose : Bool := false
  setting : Option (Setting × String) := none
  waiting : Option Setting := none
deriving DecidableEq, Inhabited, Repr

/-- A demand with a flag before it. -/
def Demand.withFlag (demand : Demand) : Switch → Demand
  | .help => { demand with help := true }
  | .verbose => { demand with verbose := true }
  | .takes _ => demand

/-- What a switch with nothing attached asks for. -/
def bareDemand : Switch → Demand
  | .takes setting => { waiting := some setting }
  | flag => Demand.withFlag {} flag

/-- What a switch with something attached asks for. A flag takes no argument, but what is attached
to a short one is taken for more short switches, whether an equals sign stands between or not. -/
def attachedDemand (switches : Switches) (switch : Switch) (short : Bool) :
    (text : List Char) → Except Refusal Demand
  | [] =>
    match switch with
    | .takes setting => .ok { setting := some (setting, "") }
    | _ => .error .misuse
  | letter :: rest =>
    match switch with
    | .takes setting => .ok { setting := some (setting, String.ofList (letter :: rest)) }
    | flag =>
      if !short then .error .misuse
      else
        match switches.lookup (String.ofList ['-', letter]) with
        | none => .error .misuse
        | some next =>
          if rest.isEmpty then .ok ((bareDemand next).withFlag flag)
          else (attachedDemand switches next true rest).map (·.withFlag flag)

/-- What a word of switches asks for. -/
def demandOf (switches : Switches) (switch : Switch) (short : Bool)
    (attached : Option (List Char)) : Except Refusal Demand :=
  match attached with
  | none => .ok (bareDemand switch)
  | some text => attachedDemand switches switch short text

/-- Meets a demand that waits for nothing. -/
def Given.meet (given : Given) (demand : Demand) : Except Refusal Given :=
  if demand.help then .error .help
  else
    let given := { given with verbose := given.verbose || demand.verbose }
    match demand.setting with
    | some (setting, text) => .ok (given.set setting text)
    | none => .ok given

/-- Obeys a word of switches, and tells whether it took the next word for an argument. -/
def Given.obey (given : Given) (demand : Demand) (next : Option (String × Word)) :
    Except Refusal (Given × Bool) :=
  match demand.waiting, next with
  | none, _ => (given.meet demand).map fun given => (given, false)
  | some setting, some (text, .operand) =>
    (given.meet { demand with setting := some (setting, text) }).map fun given => (given, true)
  | some _, _ => .error .misuse

/-! ### Levels -/

/-- Words without a separator in front. -/
def skipSeparator (words : List (String × Word)) : List (String × Word) :=
  match words with
  | (_, .separator) :: rest => rest
  | words => words

theorem length_skipSeparator_le (words : List (String × Word)) :
    (skipSeparator words).length ≤ words.length := by
  unfold skipSeparator
  split <;> simp

/-- Words without the first one, if it was taken for an argument. -/
def skipTaken (words : List (String × Word)) (took : Bool) : List (String × Word) :=
  if took then words.drop 1 else words

theorem length_skipTaken_le (words : List (String × Word)) (took : Bool) :
    (skipTaken words took).length ≤ words.length := by
  unfold skipTaken
  split <;> simp

/-- Reads the words of the program up to the command, and gives the command with its words. -/
def readProgram (given : Given) (words : List (String × Word)) :
    Except Refusal (Given × String × List String) :=
  match words with
  | [] => .error .misuse
  | (text, .operand) :: rest => .ok (given, text, rest.map Prod.fst)
  | (_, .separator) :: _ => .error .misuse
  | (_, .unknown) :: rest => readProgram { given with stray := true } rest
  | (_, .switch switch short attached) :: rest => do
    let demand ← demandOf programSwitches switch short attached
    let (given, took) ← given.obey demand rest.head?
    readProgram given (skipTaken rest took)
termination_by words.length
decreasing_by
  · exact Nat.lt_succ_self _
  · exact Nat.lt_succ_of_le (length_skipTaken_le rest took)

/-- Reads the words of a command. A separator in front of the operand or behind it belongs to
it. -/
def readCommand (switches : Switches) (given : Given) (words : List (String × Word)) :
    Except Refusal Given :=
  match words with
  | [] => .ok given
  | (text, .operand) :: rest =>
    if given.operand.isNone then
      readCommand switches { given with operand := some text } (skipSeparator rest)
    else readCommand switches { given with stray := true } rest
  | (_, .separator) :: (text, .operand) :: rest =>
    readCommand switches
      (if given.operand.isNone then { given with operand := some text }
        else { given with stray := true }) rest
  | (_, .separator) :: rest => readCommand switches { given with stray := true } rest
  | (_, .unknown) :: rest => readCommand switches { given with stray := true } rest
  | (_, .switch switch short attached) :: rest => do
    let demand ← demandOf switches switch short attached
    let (given, took) ← given.obey demand rest.head?
    readCommand switches given (skipTaken rest took)
termination_by words.length
decreasing_by
  · exact Nat.lt_succ_of_le (length_skipSeparator_le rest)
  · exact Nat.lt_succ_self _
  · exact Nat.lt_succ_of_le (Nat.le_succ _)
  · exact Nat.lt_succ_self _
  · exact Nat.lt_succ_self _
  · exact Nat.lt_succ_of_le (length_skipTaken_le rest took)

/-- The operand of a command with nothing left over. -/
def Given.sole (given : Given) : Except Refusal String :=
  match given.operand, given.stray with
  | some operand, false => .ok operand
  | _, _ => .error .misuse

/-- The switches of a command and how its task is put together. -/
def command? (name : String) : Option (Switches × (Given → String → Task)) :=
  match name with
  | "emit" => some (emitSwitches, fun given operand =>
      .emit (.ofText operand) (given.output.map Path.ofText))
  | "stubs" => some (stubsSwitches, fun given operand =>
      .stubs (.ofText operand) (given.output.value?.map Path.ofText) given.root.value?)
  | _ => none

/-- Reads a command line. -/
def parse (arguments : List String) : Except Refusal Arguments := do
  let words ← readWords programSwitches arguments
  let (before, name, rest) ← readProgram {} words
  match command? name with
  | none => throw .misuse
  | some (switches, task) =>
    let words ← readWords switches rest
    let given ← readCommand switches {} words
    let operand ← given.sole
    if before.stray then throw .misuse
    return {
      verbose := before.verbose || given.verbose
      logFile := before.logFile.map Path.ofText
      config := given.config.map Path.ofText
      task := task given operand }

end Introspection.Command
