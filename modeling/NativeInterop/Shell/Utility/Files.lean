import NativeInterop.Shell.FileNames
import NativeInterop.Shell.Utility.Names

namespace NativeInterop.Shell.Utility

/-! Utilities that list, make, copy and take away files. -/

open Shell.Action

namespace Files

/-- Does something with each path, and gives the worst status. -/
def overPaths (paths : List Bytes) (use : Bytes → Action Nat) : Action Nat := do
  return (← paths.mapM use).foldl max 0

/-- A complaint about a path, with the reason. -/
def refusal (name : Bytes) (doing : String) (path : Bytes) (error : IoError) : Action Nat := do
  complain name
    (doing.toList ++ ' ' :: Quote.shellAlways path ++ ": ".toList ++ errorText error)
  return 1

/-- The location of a path and what stands there. -/
def find (path : Bytes) : Action (Except IoError (Location × Node)) := do
  let files ← files
  return do
    let location ← System.locate files path
    match System.entryAt? files location with
    | some node => return (location, node)
    | none => throw .notFound

/-- What was put at locations of the files, as opposed to what the system has. -/
def ownEntry? (location : Location) : Action (Option Entry) := do
  return (← files).entryAt? location

def put (location : Location) (entry : Entry) : Action Unit := do
  setFiles ((← files).put location entry)

def removeAt (location : Location) : Action Unit := do
  setFiles ((← files).removeAt location)

def join (directory name : Bytes) : Bytes :=
  if directory.getLast? == some '/' then directory ++ name else directory ++ '/' :: name

/-! ### Listing -/

structure Listing where
  hidden : Bool
  dots : Bool
  marks : Bool
  marksDirectories : Bool
  reverses : Bool

/-- Names in the order in which they are listed. -/
def Listing.sorted (listing : Listing) (names : List Bytes) : List Bytes :=
  let names := names.mergeSort FileNames.precedes
  if listing.reverses then names.reverse else names

/-- A name as it is listed, with a mark for its kind. -/
def shown (listing : Listing) (name : Bytes) (node : Node) : Bytes :=
  let mark := match node with
    | .directory => ['/']
    | .file _ true | .program _ => ['*']
    | .file _ false | .special _ => []
  let isMarked := listing.marks || (listing.marksDirectories && node == .directory)
  line (if isMarked then name ++ mark else name)

def listDirectory (listing : Listing) (location : Location) : Action Unit := do
  let files ← files
  let names := System.namesIn files location
  let dots := if listing.dots then [['.'], ['.', '.']] else []
  let names := (dots ++ names.filter fun name => listing.hidden || name.head? != some '.')
  (listing.sorted names).forM fun name => do
    let node := (FileSystem.destination location (System.path name).text).toOption.bind
      (System.entryAt? files)
    Utility.put (shown listing name (node.getD .directory))

def ls : Utility := fun _ name arguments => do
  let table : OptionTable :=
    { letters := "1aAdFhilmnopqrstxCNQRSU"
      names := [("all", .nothing, 'a'), ("almost-all", .nothing, 'A'),
        ("directory", .nothing, 'd'), ("classify", .nothing, 'F'), ("reverse", .nothing, 'r')]
      status := 2 }
  let given ← table.read name arguments
  let listing : Listing :=
    ⟨given.has 'a' || given.has 'A', given.has 'a' && !given.has 'A', given.has 'F',
      given.has 'p', given.has 'r'⟩
  let paths := if given.operands.isEmpty then [['.']] else given.operands
  let there ← paths.filterMapM fun path => do
    match ← find path with
    | .ok (location, node) => return some (path, location, node)
    | .error error => do
        let _ ← refusal name "cannot access" path error
        return none
  let found := (listing.sorted (there.map (·.1))).filterMap fun path =>
    there.find? (·.1 == path)
  let isListed (node : Node) : Bool := node == .directory && !given.has 'd'
  let alone := found.filter fun (_, _, node) => !isListed node
  let directories := found.filter fun (_, _, node) => isListed node
  alone.forM fun (path, _, node) => Utility.put (shown listing path node)
  directories.zipIdx.forM fun ((path, location, _), index) => do
    if 1 < paths.length then
      let between := if index == 0 && alone.isEmpty then [] else ['\n']
      Utility.put (between ++ line (path ++ [':']))
    listDirectory listing location
  return if found.length < paths.length then 2 else 0

/-! ### Directories -/

/-- The directories around a path, from the outermost on, and the path itself. -/
def stepsTo (path : Bytes) : List Bytes :=
  let names := Text.segments (· == '/') path
  ((List.range names.length).map fun count => joinWith ['/'] (names.take (count + 1))).filter
    (!·.isEmpty)

/-- Makes a directory; with `target` it may be there already, on the way to that path. -/
def makeDirectory (name : Bytes) (target : Option Bytes) (path : Bytes) : Action Nat := do
  let files ← files
  match System.locate files path with
  | .error error => refusal name "cannot create directory" path error
  | .ok location =>
      match System.entryAt? files location with
      | none => do
          put location .directory
          return 0
      | some node => do
          if target.isSome && node == .directory then return 0
          let isWay := target.any (· != path)
          refusal name "cannot create directory" path
            (if isWay then .notADirectory else .fileExists)

def mkdir : Utility := fun _ name arguments => do
  let given ← OptionTable.read
    { letters := "pm:v", names := [("parents", .nothing, 'p'), ("mode", .value, 'm')] }
    name arguments
  if given.operands.isEmpty then missingOperand name
  overPaths given.operands fun path => do
    if given.has 'p' then
      let steps := stepsTo path
      steps.foldlM (fun status step =>
        if status == 0 then makeDirectory name steps.getLast? step else pure status) 0
    else makeDirectory name none path

def rmdir : Utility := fun _ name arguments => do
  let given ← OptionTable.read { letters := "pv" } name arguments
  if given.operands.isEmpty then missingOperand name
  let paths := given.operands.flatMap fun path =>
    if given.has 'p' then (stepsTo path).reverse else [path]
  overPaths paths fun path => do
    match ← find path with
    | .error error => refusal name "failed to remove" path error
    | .ok (location, .directory) => do
        if (System.namesIn (← files) location).isEmpty then
          removeAt location
          return 0
        refusal name "failed to remove" path (.system 39)
    | .ok _ => refusal name "failed to remove" path .notADirectory

/-! ### Files -/

def rm : Utility := fun _ name arguments => do
  let table : OptionTable :=
    { letters := "rRfidv"
      names := [("recursive", .nothing, 'r'), ("force", .nothing, 'f'), ("dir", .nothing, 'd')] }
  let given ← table.read name arguments
  let forced := given.has 'f'
  if given.operands.isEmpty then
    if forced then return 0 else missingOperand name
  overPaths given.operands fun path => do
    match ← find path with
    | .error error =>
        if forced && (error == .notFound || error == .notADirectory) then return 0
        refusal name "cannot remove" path error
    | .ok (location, node) => do
        let inside := System.namesIn (← files) location
        let whole := given.has 'r' || given.has 'R' || (given.has 'd' && inside.isEmpty)
        if node == .directory && !whole then
          return ← refusal name "cannot remove" path .isADirectory
        if lastName path == ['.'] || lastName path == ['.', '.'] then
          complain name ("refusing to remove '.' or '..' directory: skipping ".toList ++
            Quote.shellAlways path)
          return 1
        removeAt location
        if given.has 'v' then
          let kind := if node == .directory then "removed directory " else "removed "
          Utility.put (line (kind.toList ++ Quote.shellAlways path))
        return 0

def touch : Utility := fun _ name arguments => do
  let given ← OptionTable.read { letters := "acmr:t:d:" } name arguments
  if given.operands.isEmpty then misuse 1 name "missing file operand".toList
  overPaths given.operands fun path => do
    let files ← files
    match System.locate files path with
    | .error error => refusal name "cannot touch" path error
    | .ok location => do
        if (System.entryAt? files location).isNone && !given.has 'c' then
          if path.getLast? == some '/' then
            return ← refusal name "cannot touch" path .notFound
          put location (.file [] false)
        return 0

/-- Whether a mode makes a file a program; nothing if it is no mode. -/
def executableAfter? (mode : Bytes) (before : Bool) : Option Bool :=
  let bits :=
    if !mode.isEmpty && mode.all isOctalDigit && mode.length ≤ 4 then some (valueInBase 8 mode)
    else FileMode.ofClauses? mode (if before then 493 else 420)
  bits.map fun bits => bits &&& 73 != 0

def chmod : Utility := fun _ name arguments => do
  let isClause (text : Bytes) : Bool :=
    match text with
    | '-' :: c :: _ => "rwxXst".contains c
    | _ => false
  let modes := arguments.filter isClause
  let given ← OptionTable.read { letters := "Rcfv" } name (arguments.filter (!isClause ·))
  match modes ++ given.operands with
  | [] => missingOperand name
  | [mode] => misuse 1 name ("missing operand after ".toList ++ Quote.plain mode)
  | mode :: paths => do
      if (executableAfter? mode false).isNone then
        misuse 1 name ("invalid mode: ".toList ++ Quote.plain mode)
      overPaths paths fun path => do
        match ← find path with
        | .error error => refusal name "cannot access" path error
        | .ok (location, _) => do
            if let some (.file content before) ← ownEntry? location then
              put location (.file content ((executableAfter? mode before).getD before))
            return 0

/-! ### Copies -/

/-- Everything below a location, with the names that lead there from it. -/
def below (location : Location) : Action (List (Location × Entry)) := do
  return (← files).entries.filterMap fun (there, entry) =>
    (location.isPrefixOf? there).map fun names => (names, entry)

/-- Where a path is to be copied or moved to: inside of a directory, or onto the path itself. -/
def targetOf (source target : Bytes) : Action Bytes := do
  match ← find target with
  | .ok (_, .directory) => return join target (lastName source)
  | _ => return target

/-- Why something cannot take the place of what stands at a location. -/
def overwriting? (source target : Bytes) (node : Node) (there : Location) :
    Action (Option Bytes) := do
  match node, System.entryAt? (← files) there with
  | .directory, some (.file ..) =>
      return some ("cannot overwrite non-directory ".toList ++ Quote.shellAlways target ++
        " with directory ".toList ++ Quote.shellAlways source)
  | .file .., some .directory =>
      return some ("cannot overwrite directory ".toList ++ Quote.shellAlways target ++
        " with non-directory ".toList ++ Quote.shellAlways source)
  | _, _ => return none

/-- Copies what a path leads to, and tells whether it did. -/
def copy (name : Bytes) (wholeDirectories : Bool) (source target : Bytes) : Action Bool := do
  match ← find source with
  | .error error => do
      let _ ← refusal name "cannot stat" source error
      return false
  | .ok (location, node) => do
      if node == .directory && !wholeDirectories then
        complain name ("-r not specified; omitting directory ".toList ++ Quote.shellAlways source)
        return false
      let target ← targetOf source target
      match System.locate (← files) target with
      | .error error => do
          let doing := if node == .directory then "cannot create directory"
            else "cannot create regular file"
          let _ ← refusal name doing target error
          return false
      | .ok there => do
          if there == location then
            complain name (Quote.shellAlways source ++ " and ".toList ++
              Quote.shellAlways target ++ " are the same file".toList)
            return false
          if let some message ← overwriting? source target node there then
            complain name message
            return false
          match node with
          | .directory => (← below location).forM fun (names, entry) => put (there ++ names) entry
          | .file content executable =>
              let executable := match ← ownEntry? there with
                | some (.file _ before) => before
                | _ => executable
              put there (.file content executable)
          | .program _ => put there (.file [] false)
          | .special file => put there (.file (Bytes.toBytes file.content) false)
          return true

/-- The sources and the target among operands. -/
def sourcesAndTarget (name : Bytes) (operands : List Bytes) : Action (List Bytes × Bytes) := do
  match operands with
  | [] => misuse 1 name "missing file operand".toList
  | [only] =>
      misuse 1 name ("missing destination file operand after ".toList ++ Quote.shellAlways only)
  | operands => do
      let target := operands.getLastD []
      if 2 < operands.length then
        match ← find target with
        | .ok (_, .directory) => pure ()
        | .ok _ =>
            failWith 1 name ("target ".toList ++ Quote.shellAlways target ++ ": ".toList ++
              errorText .notADirectory)
        | .error error =>
            failWith 1 name ("target ".toList ++ Quote.shellAlways target ++ ": ".toList ++
              errorText error)
      return (operands.dropLast, target)

def cp : Utility := fun _ name arguments => do
  let given ← OptionTable.read
    { letters := "afipRrv", names := [("recursive", .nothing, 'r'), ("archive", .nothing, 'a')] }
    name arguments
  let (sources, target) ← sourcesAndTarget name given.operands
  let whole := given.has 'r' || given.has 'R' || given.has 'a'
  overPaths sources fun source => do
    return if ← copy name whole source target then 0 else 1

def mv : Utility := fun _ name arguments => do
  let given ← OptionTable.read { letters := "finv" } name arguments
  let (sources, target) ← sourcesAndTarget name given.operands
  overPaths sources fun source => do
    match ← find source with
    | .error error => refusal name "cannot stat" source error
    | .ok (location, node) => do
        let there ← targetOf source target
        match System.locate (← files) there with
        | .error error => do
            complain name ("cannot move ".toList ++ Quote.shellAlways source ++ " to ".toList ++
              Quote.shellAlways there ++ ": ".toList ++ errorText error)
            return 1
        | .ok destination => do
            if destination == location then
              complain name (Quote.shellAlways source ++ " and ".toList ++
                Quote.shellAlways there ++ " are the same file".toList)
              return 1
            if let some message ← overwriting? source there node destination then
              complain name message
              return 1
            let moved ← below location
            removeAt location
            moved.forM fun (names, entry) => put (destination ++ names) entry
            return 0

/-! ### Blocks -/

/-- A count with a unit behind it. -/
def blockCount? (text : Bytes) : Option Nat :=
  let digits := text.takeWhile Char.isDigit
  let unit := match String.ofList (text.drop digits.length) with
    | "" | "c" => some 1
    | "w" => some 2
    | "b" => some 512
    | "k" | "K" | "KiB" => some 1024
    | "kB" | "KB" => some 1000
    | "M" | "MiB" => some (1024 * 1024)
    | "MB" => some (1000 * 1000)
    | _ => none
  if digits.isEmpty then none else unit.map (valueInBase 10 digits * ·)

/-- Whole blocks and parts of blocks. -/
def records (block size : Nat) : Bytes :=
  Bytes.ofNat (size / block) ++ '+' :: (if size % block == 0 then ['0'] else ['1'])

def dd : Utility := fun _ name arguments => do
  let keys := ["if", "of", "bs", "ibs", "obs", "cbs", "count", "skip", "seek", "conv", "iflag",
    "oflag", "status"]
  let settings ← arguments.mapM fun word => do
    let key := word.takeWhile (· != '=')
    unless word.contains '=' && keys.contains (String.ofList key) do
      misuse 1 name ("unrecognized operand ".toList ++ Quote.plain word)
    return (String.ofList key, word.drop (key.length + 1))
  let setting? (key : String) : Option Bytes := (settings.reverse.find? (·.1 == key)).map (·.2)
  let count (key : String) (otherwise : Nat) : Action Nat := do
    match setting? key with
    | none => return otherwise
    | some text =>
        match blockCount? text with
        | some value => return value
        | none => failWith 1 name ("invalid number: ".toList ++ Quote.plain text)
  let block ← count "bs" (← count "ibs" 512)
  let path := (setting? "if").getD ['-']
  match ← input path with
  | .error error =>
      failWith 1 name ("failed to open ".toList ++ Quote.shellAlways path ++ ": ".toList ++
        errorText error.error)
  | .ok content => do
      let rest := content.drop ((← count "skip" 0) * block)
      let chosen ← match setting? "count" with
        | none => pure rest
        | some _ => do pure (rest.take ((← count "count" 0) * block))
      match setting? "of" with
      | none => Utility.put chosen
      | some path =>
          match (← files).write (System.path path) (Bytes.toBytes chosen) with
          | .ok files => setFiles files
          | .error error =>
              failWith 1 name ("failed to open ".toList ++ Quote.shellAlways path ++ ": ".toList ++
                errorText error)
      let status := setting? "status"
      if status != some "none".toList then
        let told := records block chosen.length
        Action.complain (told ++ " records in\n".toList ++ told ++ " records out\n".toList)
        if status != some "noxfer".toList then
          Action.complain (Bytes.ofNat chosen.length ++ " bytes copied, 0 s, 0 B/s\n".toList)
      return 0

/-! ### Other names -/

/-- Gives a file a second name. Both names have a content of their own from then on. -/
def link (name : Bytes) (source target : Bytes) (tell : Bytes → IoError → Bytes) : Action Nat := do
  match ← find source, System.locate (← files) target with
  | .error error, _ => do
      complain name (tell source error)
      return 1
  | .ok _, .error error => do
      complain name (tell target error)
      return 1
  | .ok (_, node), .ok there => do
      if (System.entryAt? (← files) there).isSome then
        complain name (tell target .fileExists)
        return 1
      if let .file content executable := node then put there (.file content executable)
      return 0

def linkOnce : Utility := fun _ name arguments => do
  let given ← OptionTable.read { letters := "" } name arguments
  match given.operands with
  | [] => missingOperand name
  | [only] => misuse 1 name ("missing operand after ".toList ++ Quote.plain only)
  | [source, target] =>
      link name source target fun _ error =>
        "cannot create link ".toList ++ Quote.shellAlways target ++ " to ".toList ++
          Quote.shellAlways source ++ ": ".toList ++ errorText error
  | _ :: _ :: extra :: _ => extraOperand name extra

def ln : Utility := fun _ name arguments => do
  let given ← OptionTable.read
    { letters := "bfinrsvLPT", names := [("symbolic", .nothing, 's'), ("force", .nothing, 'f')] }
    name arguments
  let (sources, target) ← match given.operands with
    | [] => misuse 1 name "missing file operand".toList
    | [only] => pure ([only], ['.'])
    | operands => pure (operands.dropLast, operands.getLastD [])
  let kind := if given.has 's' then "symbolic" else "hard"
  overPaths sources fun source => do
    let target ← targetOf source target
    if let (.error error, false) := (← find source, given.has 's') then
      return ← refusal name "failed to access" source error
    if given.has 'f' then
      if let .ok (location, .file ..) ← find target then removeAt location
    if given.has 's' then
      let isThere := (← find source).toOption.isSome
      if !isThere then return 0
    link name source target fun path error =>
      "failed to create ".toList ++ kind.toList ++ " link ".toList ++ Quote.shellAlways path ++
        ": ".toList ++ errorText error

def unlink : Utility := fun _ name arguments => do
  let given ← OptionTable.read { letters := "" } name arguments
  match given.operands with
  | [] => missingOperand name
  | [path] => do
      match ← find path with
      | .error error => refusal name "cannot unlink" path error
      | .ok (_, .directory) => refusal name "cannot unlink" path .isADirectory
      | .ok (location, _) => do
          removeAt location
          return 0
  | _ :: extra :: _ => extraOperand name extra

def truncate : Utility := fun _ name arguments => do
  let given ← OptionTable.read
    { letters := "cor:s:"
      names := [("size", .value, 's'), ("no-create", .nothing, 'c'), ("reference", .value, 'r')] }
    name arguments
  let some text := given.value? 's'
    | misuse 1 name "you must specify either '--size' or '--reference'".toList
  let digits := text.dropWhile fun c => c == '+' || c == '-'
  if digits.isEmpty || !digits.all Char.isDigit then
    failWith 1 name ("Invalid number: ".toList ++ Quote.plain text)
  if given.operands.isEmpty then misuse 1 name "missing file operand".toList
  overPaths given.operands fun path => do
    let files ← files
    let before := match System.lookup files path with
      | .ok (.file content executable) => some (content, executable)
      | _ => none
    if before.isNone && given.has 'c' then return 0
    let (content, executable) := before.getD ([], false)
    let amount := valueInBase 10 digits
    let size := match text with
      | '+' :: _ => content.length + amount
      | '-' :: _ => content.length - amount
      | _ => amount
    match System.locate files path with
    | .error error => do
        complain name ("cannot open ".toList ++ Quote.shellAlways path ++ " for writing: ".toList ++
          errorText error)
        return 1
    | .ok location => do
        put location
          (.file (content.take size ++ List.replicate (size - content.length) 0) executable)
        return 0

/-- The letters that take the place of the marks in the name of a temporary file: their number is
told with so many letters. -/
def uniqueLetters (count number : Nat) : Bytes :=
  let digits := (Nat.toDigits 16 number).map Char.toUpper
  List.replicate (count - digits.length) 'a' ++ digits.drop (digits.length - count)

def mktemp : Utility := fun _ name arguments => do
  let given ← OptionTable.read
    { letters := "dp:qtu", names := [("directory", .nothing, 'd'), ("tmpdir", .possibly, 'p')] }
    name arguments
  let isNamed := !given.operands.isEmpty
  let template ← match given.operands with
    | [] => pure "tmp.XXXXXXXXXX".toList
    | [template] => pure template
    | _ => misuse 1 name "too many templates".toList
  let marks := (template.reverse.takeWhile (· == 'X')).length
  if marks < 3 then failWith 1 name ("too few X's in template ".toList ++ Quote.plain template)
  modify fun machine => { machine with processes := machine.processes + 1 }
  let fresh := template.take (template.length - marks) ++
    uniqueLetters marks (← get).processes
  let path := match given.value? 'p' with
    | some directory => join (if directory.isEmpty then "/tmp".toList else directory) fresh
    | none => if isNamed && !given.has 't' then fresh else join "/tmp".toList fresh
  let kind := if given.has 'd' then "directory" else "file"
  match System.locate (← files) path with
  | .error error =>
      let shown := path.take (path.length - marks) ++ List.replicate marks 'X'
      failWith 1 name ("failed to create ".toList ++ kind.toList ++ " via template ".toList ++
        Quote.plain shown ++ ": ".toList ++ errorText error)
  | .ok location => do
      unless given.has 'u' do
        put location (if given.has 'd' then .directory else .file [] false)
      Utility.put (line path)
      return 0

/-! ### Comparing -/

/-- How many bytes and line ends two texts begin with in common. -/
def agreement : Bytes → Bytes → Nat × Nat
  | a :: as, b :: bs =>
      if a == b then
        let (bytes, lines) := agreement as bs
        (bytes + 1, if a == '\n' then lines + 1 else lines)
      else (0, 0)
  | _, _ => (0, 0)

def cmp : Utility := fun _ name arguments => do
  let given ← OptionTable.read
    { letters := "sbl", names := [("quiet", .nothing, 's'), ("silent", .nothing, 's')]
      status := 2, namesHelp := true }
    name arguments
  let (first, second) ← match given.operands with
    | [] => do
        complain name ("missing operand after '".toList ++ name ++ ['\''])
        Action.complain (name ++ ": ".toList ++ helpLine name)
        stop 2
    | [first] => pure (first, ['-'])
    | first :: second :: _ => pure (first, second)
  let content (path : Bytes) : Action Bytes := do
    match ← input path with
    | .ok bytes => return bytes
    | .error error => failWith 2 name (path ++ ": ".toList ++ errorText error.error)
  let a ← content first
  let b ← content second
  if a == b then return 0
  if given.has 's' then return 1
  let (bytes, lines) := agreement a b
  let shorter := if bytes == a.length then some first
    else if bytes == b.length then some second else none
  match shorter with
  | none =>
      Utility.put (line (first ++ ' ' :: second ++ " differ: char ".toList ++
        Bytes.ofNat (bytes + 1) ++ ", line ".toList ++ Bytes.ofNat (lines + 1)))
  | some path =>
      let atEnd := (a.take bytes).getLast? == some '\n'
      let ending := if bytes == 0 then " which is empty".toList
        else " after byte ".toList ++ Bytes.ofNat bytes ++
          (if atEnd then ", line " else ", in line ").toList ++
          Bytes.ofNat (if atEnd then lines else lines + 1)
      complain name ("EOF on ".toList ++ path ++ ending)
  return 1

end Files

end NativeInterop.Shell.Utility
