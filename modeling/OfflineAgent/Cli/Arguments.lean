/-!
The command line: options, which may stand before or after a command, and the command with its
operand. Main function: `Cli.read`.
-/

namespace OfflineAgent.Cli

inductive Verb where
  | serve
  | install
  | prune
  | stores
  | fetch
  | message
deriving DecidableEq, Repr

namespace Verb

def all : List Verb :=
  [serve, install, prune, stores, fetch, message]

def name : Verb → String
  | serve => "serve"
  | install => "install"
  | prune => "prune"
  | stores => "stores"
  | fetch => "fetch"
  | message => "message"

def ofName? (name : String) : Option Verb :=
  all.find? (·.name = name)

end Verb

inductive Signal where
  | skipWaiting
  | getVersion
deriving DecidableEq, Repr

namespace Signal

def name : Signal → String
  | skipWaiting => "skip-waiting"
  | getVersion => "get-version"

def ofName? (name : String) : Option Signal :=
  [skipWaiting, getVersion].find? (·.name = name)

def type : Signal → String
  | skipWaiting => "SKIP_WAITING"
  | getVersion => "GET_VERSION"

end Signal

inductive Command where
  | serve
  | install
  | prune
  | stores
  | fetch (target : String) (accept : Option String)
  | message (signal : Signal)
deriving DecidableEq, Repr

structure Arguments where
  /-- The file of settings that the user names. -/
  config : Option String
  /-- An origin in place of that of the settings. -/
  origin : Option String
  command : Command
deriving DecidableEq, Repr

/-- What a command line asks for, if anything. -/
inductive Asked where
  | run (arguments : Arguments)
  /-- Help on a command, or on the program. -/
  | help (verb : Option Verb)
  | helpOnHelp
  | version
  | refused
deriving DecidableEq, Repr

inductive Flag where
  | config
  | origin
  | accept
  | help
  | version
deriving DecidableEq, Repr

namespace Flag

def name : Flag → String
  | config => "config"
  | origin => "origin"
  | accept => "accept"
  | help => "help"
  | version => "version"

def letter? : Flag → Option Char
  | config => some 'c'
  | origin => some 'o'
  | accept => none
  | help => some 'h'
  | version => some 'V'

/-- The flags after a command, or before any. -/
def known (verb : Option Verb) : List Flag :=
  [config, origin, help] ++ if verb.isNone then [version] else
    if verb = some .fetch then [accept] else []

def ofName? (verb : Option Verb) (name : String) : Option Flag :=
  (known verb).find? (·.name = name)

def ofLetter? (verb : Option Verb) (letter : Char) : Option Flag :=
  (known verb).find? (·.letter? = some letter)

end Flag

/-- What was given before a command, or after it. -/
structure Given where
  config : Option String
  origin : Option String
  accept : Option String
  operand : Option String
deriving DecidableEq, Repr

namespace Given

def nothing : Given := ⟨none, none, none, none⟩

/-- Sets a flag to a value, if it has none yet. A file cannot have an empty name. -/
def set (given : Given) (flag : Flag) (value : String) : Except Asked Given :=
  match flag with
  | .config =>
    if given.config.isSome || value.isEmpty then .error .refused
    else .ok { given with config := some value }
  | .origin =>
    if given.origin.isSome then .error .refused else .ok { given with origin := some value }
  | .accept =>
    if given.accept.isSome then .error .refused else .ok { given with accept := some value }
  | .help | .version => .error .refused

/-- Sets the operand, which only some commands take. -/
def setOperand (given : Given) (verb : Verb) (value : String) : Except Asked Given :=
  let isTaken := match verb with
    | .fetch => true
    | .message => (Signal.ofName? value).isSome
    | _ => false
  if isTaken && given.operand.isNone then .ok { given with operand := some value }
  else .error .refused

end Given

def askedBy (verb : Option Verb) : Flag → Asked
  | .help => .help verb
  | .version => .version
  | _ => .refused

def takesValue : Flag → Bool
  | .config | .origin | .accept => true
  | .help | .version => false

/-- Whether a word is read as flags. A single dash is not. -/
def isFlagWord (word : String) : Bool :=
  word.startsWith "-" && word != "-"

def takeWord : List String → Except Asked (String × List String)
  | word :: rest => if isFlagWord word then .error .refused else .ok (word, rest)
  | [] => .error .refused

/-- Letters after a single dash. A flag with a value takes what follows it in the word, or else the
next word. -/
def readLetters (verb : Option Verb) (given : Given) (rest : List String) :
    List Char → Except Asked (Given × List String)
  | [] => .ok (given, rest)
  | letter :: letters =>
    match Flag.ofLetter? verb letter with
    | none => .error .refused
    | some flag =>
      if !takesValue flag then .error (askedBy verb flag)
      else
        match letters with
        | [] => do
          let (value, rest) ← takeWord rest
          return (← given.set flag value, rest)
        | '=' :: value => do return (← given.set flag (String.ofList value), rest)
        | value => do return (← given.set flag (String.ofList value), rest)

/-- A name after two dashes, with its value after an equals sign or in the next word. -/
def readName (verb : Option Verb) (given : Given) (rest : List String) (text : List Char) :
    Except Asked (Given × List String) := do
  let (name, written) := match text.span (· != '=') with
    | (name, _ :: value) => (name, some (String.ofList value))
    | (name, []) => (name, none)
  match Flag.ofName? verb (String.ofList name), written with
  | none, _ => throw .refused
  | some flag, some value => return (← given.set flag value, rest)
  | some flag, none =>
    if takesValue flag then
      let (value, rest) ← takeWord rest
      return (← given.set flag value, rest)
    else throw (askedBy verb flag)

/-- Words after a command. After two dashes alone, no word is a flag. Each step takes a word at
least, so `fuel` may be their number. -/
def readOperands (verb : Verb) : Nat → Bool → Given → List String → Except Asked Given
  | 0, _, given, _ => .ok given
  | _ + 1, _, given, [] => .ok given
  | fuel + 1, isPlain, given, word :: rest =>
    if isPlain || !isFlagWord word then do
      readOperands verb fuel isPlain (← given.setOperand verb word) rest
    else
      match word.toList with
      | ['-', '-'] => readOperands verb fuel true given rest
      | '-' :: '-' :: text => do
        let (given, rest) ← readName (some verb) given rest text
        readOperands verb fuel false given rest
      | letters => do
        let (given, rest) ← readLetters (some verb) given rest letters.tail
        readOperands verb fuel false given rest

def readFlags : Nat → Given → List String → Except Asked (Given × Option (String × List String))
  | 0, given, _ => .ok (given, none)
  | _ + 1, given, [] => .ok (given, none)
  | fuel + 1, given, word :: rest =>
    if !isFlagWord word then .ok (given, some (word, rest))
    else
      match word.toList with
      | ['-', '-'] => if rest.isEmpty then .ok (given, none) else .error .refused
      | '-' :: '-' :: text => do
        let (given, rest) ← readName none given rest text
        readFlags fuel given rest
      | letters => do
        let (given, rest) ← readLetters none given rest letters.tail
        readFlags fuel given rest

def readHelp : List String → Asked
  | [] => .help none
  | [name] =>
    if name = "help" then .helpOnHelp
    else
      match Verb.ofName? name with
      | some verb => .help (some verb)
      | none => .refused
  | _ => .refused

def commandOf (verb : Verb) (given : Given) : Except Asked Command :=
  match verb with
  | .serve => .ok .serve
  | .install => .ok .install
  | .prune => .ok .prune
  | .stores => .ok .stores
  | .fetch =>
    match given.operand with
    | some target => .ok (.fetch target given.accept)
    | none => .error .refused
  | .message =>
    match given.operand.bind Signal.ofName? with
    | some signal => .ok (.message signal)
    | none => .error .refused

/-- The arguments of a run. What stands after the command counts before what stands in front. -/
def readArguments (words : List String) : Except Asked Arguments := do
  let (front, command) ← readFlags (words.length + 1) .nothing words
  match command with
  | none => return ⟨front.config, front.origin, .serve⟩
  | some (name, rest) =>
    match Verb.ofName? name with
    | none => throw (if name = "help" then readHelp rest else .refused)
    | some verb =>
      let given ← readOperands verb (rest.length + 1) false .nothing rest
      return {
        config := given.config <|> front.config
        origin := given.origin <|> front.origin
        command := ← commandOf verb given }

def read (words : List String) : Asked :=
  match readArguments words with
  | .ok arguments => .run arguments
  | .error asked => asked

end OfflineAgent.Cli
