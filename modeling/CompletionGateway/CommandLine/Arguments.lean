/-! The arguments of the command: options that may stand anywhere, a command, and what belongs to it. -/
namespace CompletionGateway.CommandLine

inductive ConfigAction where
  | default
  | validate
  | path
  deriving DecidableEq, Repr

inductive Command where
  | serve (listenPort : Option UInt16)
  | config (action : ConfigAction)
  | doctor
  deriving DecidableEq, Repr

/-- What help is asked about. -/
inductive Topic where
  | general
  | serve
  | config
  | configAction (a : ConfigAction)
  | doctor
  deriving DecidableEq, Repr

/-- What the arguments ask for. -/
inductive Request where
  | run (command : Command) (configPath : Option String)
  | help (topic : Topic)
  | version
  | usageError
  deriving DecidableEq, Repr

/-- Arguments read so far. Options that stand anywhere may be given once for each command word. -/
structure Parsed where
  verboseHere : Bool
  jsonHere : Bool
  pathHere : Bool
  configPath : Option String
  listenPort : Option UInt16
  topic : Topic
  deriving DecidableEq, Repr

def Parsed.start : Parsed := ⟨false, false, false, none, none, .general⟩

def ConfigAction.ofName? (s : String) : Option ConfigAction :=
  if s = "default" then some .default
  else if s = "validate" then some .validate
  else if s = "path" then some .path
  else none

def Topic.ofName? (s : String) : Option Topic :=
  if s = "serve" then some .serve
  else if s = "config" then some .config
  else if s = "doctor" then some .doctor
  else none

/-- The topic of a command's own name, below a topic. -/
def Topic.under (t : Topic) (s : String) : Option Topic :=
  match t with
  | .general => Topic.ofName? s
  | .config => (ConfigAction.ofName? s).map .configAction
  | _ => none

/-- A 16-bit number with a sign or without. -/
def portNumber? (s : String) : Option UInt16 :=
  let (negative, ds) := match s.toList with
    | '+' :: ds => (false, ds)
    | '-' :: ds => (true, ds)
    | ds => (false, ds)
  let n := ds.foldl (fun n c => n * 10 + (c.toNat - 48)) 0
  if ds.isEmpty || !ds.all Char.isDigit || 65536 ≤ n || (negative && n ≠ 0) then none else some (UInt16.ofNat n)

/-- The value options, by what they set. -/
inductive Slot where
  | configPath
  | listenPort
  deriving DecidableEq, Repr

/-- Give an option its value. A path is not empty, and one given later comes before one given earlier. -/
def Parsed.fill (p : Parsed) (slot : Slot) (value : String) : Option Parsed :=
  match slot with
  | .configPath =>
    if p.pathHere || value.isEmpty then none else some { p with configPath := some value, pathHere := true }
  | .listenPort =>
    if p.listenPort.isSome then none
    else (portNumber? value).map fun n => { p with listenPort := some n }

/-- What reading one argument comes to. -/
inductive Step where
  | next (p : Parsed)
  /-- The option needs its value from the next argument. -/
  | needs (slot : Slot) (p : Parsed)
  | stop (r : Request)

def Parsed.setVerbose (p : Parsed) : Option Parsed :=
  if p.verboseHere then none else some { p with verboseHere := true }

def Parsed.setJson (p : Parsed) : Option Parsed := if p.jsonHere then none else some { p with jsonHere := true }

def Step.ofOption : Option Parsed → Step
  | some p => .next p
  | none => .stop .usageError

/-- Only one command listens. -/
def takesPort (p : Parsed) : Bool := p.topic == .serve

/-- Options of one letter, several of which may stand together; the value of one may follow it directly. -/
def shortOptions (p : Parsed) : List Char → Step
  | [] => .next p
  | c :: rest =>
    let valued (slot : Slot) : Step :=
      match rest with
      | [] => .needs slot p
      | '=' :: value => .ofOption (p.fill slot (String.ofList value))
      | value => .ofOption (p.fill slot (String.ofList value))
    if c = 'v' then
      match p.setVerbose with
      | some p => shortOptions p rest
      | none => .stop .usageError
    else if c = 'c' then valued .configPath
    else if c = 'p' && takesPort p then valued .listenPort
    else if c = 'h' then .stop (.help p.topic)
    else if c = 'V' && p.topic == .general then .stop .version
    else .stop .usageError

/-- An option by its long name, with the value behind an equals sign if there is one. -/
def longOption (p : Parsed) (name : String) (value : Option String) : Step :=
  let valued (slot : Slot) : Step :=
    match value with
    | some v => .ofOption (p.fill slot v)
    | none => .needs slot p
  if name = "config" then valued .configPath
  else if name = "port" && takesPort p then valued .listenPort
  else if value.isSome then .stop .usageError
  else if name = "verbose" then .ofOption p.setVerbose
  else if name = "json" then .ofOption p.setJson
  else if name = "help" then .stop (.help p.topic)
  else if name = "version" && p.topic == .general then .stop .version
  else .stop .usageError

/-- The command that the words so far name. -/
def Parsed.command? (p : Parsed) : Option Command :=
  match p.topic with
  | .general => none
  | .serve => some (.serve p.listenPort)
  | .config => some (.config .default)
  | .configAction a => some (.config a)
  | .doctor => some .doctor

/-- The topic that the words behind `help` lead to. -/
def helpTopic (t : Topic) : List String → Request
  | [] => .help t
  | w :: ws =>
    match t.under w with
    | some t => helpTopic t ws
    | none => .usageError

/-- Go down to the command that a word names. -/
def Parsed.enter (p : Parsed) (w : String) : Option Parsed :=
  (p.topic.under w).map fun t => ⟨false, false, false, p.configPath, p.listenPort, t⟩

def hasActions (t : Topic) : Bool := t == .general || t == .config

/-- All arguments read: the path may also come from the environment. -/
def Parsed.finish (p : Parsed) (fallback : Option String) : Request :=
  match p.command? with
  | none => .usageError
  | some c =>
    match p.configPath with
    | some path => .run c (some path)
    | none => if fallback = some "" then .usageError else .run c fallback

/-- An argument that can be a value: not an option itself. -/
def isValue (s : String) : Bool := !(s.toList.head? = some '-' && 1 < s.length)

/-- Read one argument, knowing what stands behind it. -/
def readOne (fallback : Option String) (p : Parsed) (w : String) (ws : List String) : Step :=
  match w.toList with
  | '-' :: '-' :: [] => .stop (if ws.isEmpty then p.finish fallback else .usageError)
  | '-' :: '-' :: cs =>
    longOption p (String.ofList (cs.takeWhile (· != '=')))
      (if cs.contains '=' then some (String.ofList ((cs.dropWhile (· != '=')).drop 1)) else none)
  | '-' :: c :: cs => shortOptions p (c :: cs)
  | _ => if w = "help" && hasActions p.topic then .stop (helpTopic p.topic ws) else .ofOption (p.enter w)

def readAll (fallback : Option String) (p : Parsed) : List String → Request
  | [] => p.finish fallback
  | w :: ws =>
    match readOne fallback p w ws with
    | .stop r => r
    | .next p => readAll fallback p ws
    | .needs slot p =>
      match ws with
      | [] => .usageError
      | value :: ws =>
        match if isValue value then p.fill slot value else none with
        | some p => readAll fallback p ws
        | none => .usageError

/-- What arguments ask for, given the path that the environment names. -/
def parse (args : List String) (fallback : Option String) : Request := readAll fallback .start args

end CompletionGateway.CommandLine
