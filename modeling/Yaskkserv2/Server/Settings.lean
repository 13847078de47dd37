import Yaskkserv2.Skk

/-!
# Settings of the server

`command_line.rs` and `config_file.rs`: the configuration starts with its defaults, the command line
sets what it was given, and the assignments of the config file are consulted for the fields that
still have their default value.  The parsed command line and the assignments are arguments; an
option or a key that the source does not name is not looked at.
-/

namespace Yaskkserv2

open Framework

/-- The `Config` of the server, with the values of `Config::new`. -/
structure ServerConfig extends Config where
  port : Bytes := ascii "1178"
  listenAddress : Bytes := ascii "0.0.0.0"
  dictionaryFullPath : Bytes := []
  fullPath : Bytes := ascii "/etc/yaskkserv2.conf"
  googleTimeoutMilliseconds : ℕ := 1000
  googleCacheFullPath : Bytes := ascii "/tmp/yaskkserv2.google_cache"
  googleMaxCandidatesLength : ℕ := 5 * 5
  googleInsertHiraganaOnlyCandidate : Bool := false
  googleInsertKatakanaOnlyCandidate : Bool := false
  googleInsertHankakuKatakanaOnlyCandidate : Bool := false
  isHttpEnabled : Bool := false
  isNoDaemonize : Bool := false

/-- `Config::new`. -/
def ServerConfig.new : ServerConfig := {}

/-- The options and the keys that take a value. -/
inductive OptionKey where
  | Dictionary
  | ConfigFilename
  | Port
  | MaxConnections
  | ListenAddress
  | HostnameAndIpAddressForProtocol3
  | GoogleTimeoutMilliseconds
  | GoogleCacheFilename
  | GoogleCacheEntries
  | GoogleCacheExpireSeconds
  | GoogleMaxCandidatesLength
  | MaxServerCompletions
  | GoogleJapaneseInput
  | GoogleUseHttp
  | GoogleSuggest
  | GoogleInsertHiraganaOnlyCandidate
  | GoogleInsertKatakanaOnlyCandidate
  | GoogleInsertHankakuKatakanaOnlyCandidate
  deriving DecidableEq, Repr

/-- A field of the configuration. -/
structure ConfigField (α : Type) where
  get : ServerConfig → α
  set : ServerConfig → α → ServerConfig
  set_get : ∀ config, set config (get config) = config

namespace ConfigField

def port : ConfigField Bytes := ⟨fun c => c.port, fun c v => { c with port := v }, fun _ => rfl⟩

def maxConnections : ConfigField ℕ :=
  ⟨fun c => c.maxConnections, fun c v => { c with maxConnections := v }, fun _ => rfl⟩

def listenAddress : ConfigField Bytes :=
  ⟨fun c => c.listenAddress, fun c v => { c with listenAddress := v }, fun _ => rfl⟩

def hostnameAndIpAddressForProtocol3 : ConfigField Bytes :=
  ⟨fun c => c.hostnameAndIpAddressForProtocol3,
    fun c v => { c with hostnameAndIpAddressForProtocol3 := v }, fun _ => rfl⟩

def dictionaryFullPath : ConfigField Bytes :=
  ⟨fun c => c.dictionaryFullPath, fun c v => { c with dictionaryFullPath := v }, fun _ => rfl⟩

def fullPath : ConfigField Bytes :=
  ⟨fun c => c.fullPath, fun c v => { c with fullPath := v }, fun _ => rfl⟩

def googleTimeoutMilliseconds : ConfigField ℕ :=
  ⟨fun c => c.googleTimeoutMilliseconds, fun c v => { c with googleTimeoutMilliseconds := v },
    fun _ => rfl⟩

def googleTiming : ConfigField GoogleTiming :=
  ⟨fun c => c.googleTiming, fun c v => { c with googleTiming := v }, fun _ => rfl⟩

def googleCacheFullPath : ConfigField Bytes :=
  ⟨fun c => c.googleCacheFullPath, fun c v => { c with googleCacheFullPath := v }, fun _ => rfl⟩

def googleCacheEntries : ConfigField ℕ :=
  ⟨fun c => c.googleCacheEntries, fun c v => { c with googleCacheEntries := v }, fun _ => rfl⟩

def googleCacheExpireSeconds : ConfigField ℕ :=
  ⟨fun c => c.googleCacheExpireSeconds, fun c v => { c with googleCacheExpireSeconds := v },
    fun _ => rfl⟩

def googleMaxCandidatesLength : ConfigField ℕ :=
  ⟨fun c => c.googleMaxCandidatesLength, fun c v => { c with googleMaxCandidatesLength := v },
    fun _ => rfl⟩

def maxServerCompletions : ConfigField ℕ :=
  ⟨fun c => c.maxServerCompletions, fun c v => { c with maxServerCompletions := v }, fun _ => rfl⟩

def isHttpEnabled : ConfigField Bool :=
  ⟨fun c => c.isHttpEnabled, fun c v => { c with isHttpEnabled := v }, fun _ => rfl⟩

def isGoogleSuggestEnabled : ConfigField Bool :=
  ⟨fun c => c.isGoogleSuggestEnabled, fun c v => { c with isGoogleSuggestEnabled := v },
    fun _ => rfl⟩

def googleInsertHiraganaOnlyCandidate : ConfigField Bool :=
  ⟨fun c => c.googleInsertHiraganaOnlyCandidate,
    fun c v => { c with googleInsertHiraganaOnlyCandidate := v }, fun _ => rfl⟩

def googleInsertKatakanaOnlyCandidate : ConfigField Bool :=
  ⟨fun c => c.googleInsertKatakanaOnlyCandidate,
    fun c v => { c with googleInsertKatakanaOnlyCandidate := v }, fun _ => rfl⟩

def googleInsertHankakuKatakanaOnlyCandidate : ConfigField Bool :=
  ⟨fun c => c.googleInsertHankakuKatakanaOnlyCandidate,
    fun c v => { c with googleInsertHankakuKatakanaOnlyCandidate := v }, fun _ => rfl⟩

end ConfigField

/-! ## Values of the options -/

/-- The range of an integer type. -/
structure IntegerType where
  min : ℤ
  max : ℤ

namespace IntegerType

def i32 : IntegerType := ⟨-2 ^ 31, 2 ^ 31 - 1⟩
def u32 : IntegerType := ⟨0, 2 ^ 32 - 1⟩
def u64 : IntegerType := ⟨0, 2 ^ 64 - 1⟩
def usize : IntegerType := ⟨0, 2 ^ 64 - 1⟩

/-- The number that digits continue. -/
def digitsFrom (value : ℕ) : Bytes → Option ℕ
  | [] => some value
  | b :: rest =>
    if 0x30 ≤ b ∧ b ≤ 0x39 then digitsFrom (value * 10 + (b - 0x30).toNat) rest else none

def magnitude (digits : Bytes) : Option ℤ :=
  if digits = [] then none else (digitsFrom 0 digits).map fun n : ℕ => (n : ℤ)

/-- A number with its sign; only the types with negative numbers have a minus sign. -/
def signed (T : IntegerType) : Bytes → Option ℤ
  | [] => none
  | sign :: digits =>
    if sign = 0x2b then magnitude digits
    else if sign = 0x2d ∧ T.min < 0 then (magnitude digits).map fun n => -n
    else magnitude (sign :: digits)

/-- `str::parse`. -/
def parse (T : IntegerType) (value : Bytes) : Option ℤ :=
  (T.signed value).filter fun n => decide (T.min ≤ n ∧ n ≤ T.max)

end IntegerType

/-- `parse_integer`.  The numbers of the configuration are not negative: the validators refuse the
others before. -/
def parseInteger (T : IntegerType) (failValue : ℕ) (value : Bytes) : ℕ :=
  ((T.parse value).map Int.toNat).getD failValue

/-- What the operating system and the parser of addresses say of a text. -/
structure Host where
  pathExists : Bytes → Bool
  isIpAddr : Bytes → Bool

/-- A validator returns its message as the error. -/
abbrev Validator := Bytes → Outcome Bytes Unit

namespace Yaskkserv2CommandLine

def rangeValidator (T : IntegerType) (message : Bytes) (min max : ℤ) : Validator := fun value =>
  match T.parse value with
  | none => .error message
  | some n => if n < min ∨ max < n then .error message else .ok ()

def dictionaryValidator (host : Host) : Validator := fun value =>
  if host.pathExists value then .ok ()
  else .error (ascii "dictionary \"" ++ value ++ ascii "\" not found")

def portValidator : Validator := rangeValidator .i32 (ascii "illegal port number") 0 65535

def maxConnectionsValidator : Validator :=
  rangeValidator .i32 (ascii "illegal max connection range") 1 1024

def listenAddressValidator (host : Host) : Validator := fun value =>
  if host.isIpAddr value then .ok () else .error (ascii "illegal listen address")

def hostnameAndIpAddressAddressValidator : Validator := fun value =>
  if value ≠ [] ∧ ∀ b ∈ value, 0x21 ≤ b ∧ b ≤ 0x7e then .ok ()
  else .error (ascii "illegal hostname/IP")

def googleTimeoutMillisecondsValidator : Validator :=
  rangeValidator .u64 (ascii "illegal timeout milliseconds") 0 (5 * 60 * 1000)

def googleCacheEntriesValidator : Validator :=
  rangeValidator .usize (ascii "illegal cache entries") 1 (1024 * 1024)

def googleCacheExpireSecondsValidator : Validator :=
  rangeValidator .u64 (ascii "illegal expire seconds") 1 (100 * 365 * 24 * 60 * 60)

def googleMaxCandidatesLengthValidator : Validator :=
  rangeValidator .u64 (ascii "illegal candidates length") 1 1024

def maxServerCompletionsValidator : Validator :=
  rangeValidator .i32 (ascii "illegal max server completions") 1 (64 * 1024)

end Yaskkserv2CommandLine

/-- The four names of a timing. -/
def googleTimingOf (value : Bytes) : Option GoogleTiming :=
  if value = ascii "notfound" then some .NotFound
  else if value = ascii "disable" then some .Disable
  else if value = ascii "last" then some .Last
  else if value = ascii "first" then some .First
  else none

/-! ## The command line -/

/-- What was given on the command line.  The flags are the options without a value. -/
structure ArgMatches where
  given : OptionKey → Option Bytes
  version : Bool
  noDaemonize : Bool
  googleUseHttp : Bool
  midashiUtf8 : Bool
  googleSuggest : Bool

/-- The `default_value` of an argument. -/
def OptionKey.defaultValue : OptionKey → Option Bytes
  | Port => some (ascii "1178")
  | MaxConnections => some (ascii "16")
  | ListenAddress => some (ascii "0.0.0.0")
  | HostnameAndIpAddressForProtocol3 => some (ascii "localhost:127.0.0.1")
  | GoogleTimeoutMilliseconds => some (ascii "1000")
  | GoogleCacheEntries => some (ascii "1024")
  | GoogleCacheExpireSeconds => some (ascii "2592000")
  | GoogleMaxCandidatesLength => some (ascii "25")
  | MaxServerCompletions => some (ascii "64")
  | _ => none

open Yaskkserv2CommandLine in
/-- The `validator` of an argument, or its `possible_values`. -/
def OptionKey.validator (host : Host) : OptionKey → Validator
  | Dictionary => dictionaryValidator host
  | Port => portValidator
  | MaxConnections => maxConnectionsValidator
  | ListenAddress => listenAddressValidator host
  | HostnameAndIpAddressForProtocol3 => hostnameAndIpAddressAddressValidator
  | GoogleTimeoutMilliseconds => googleTimeoutMillisecondsValidator
  | GoogleCacheEntries => googleCacheEntriesValidator
  | GoogleCacheExpireSeconds => googleCacheExpireSecondsValidator
  | GoogleMaxCandidatesLength => googleMaxCandidatesLengthValidator
  | MaxServerCompletions => maxServerCompletionsValidator
  | GoogleJapaneseInput => fun value =>
      if (googleTimingOf value).isSome then .ok () else .error (ascii "isn't a valid value")
  | _ => fun _ => .ok ()

/-- `ArgMatches::value_of`. -/
def ArgMatches.valueOf (args : ArgMatches) (key : OptionKey) : Option Bytes :=
  (args.given key).or key.defaultValue

/-- What `setup` works on: the configuration, and whether the program is to exit, with its help or
without. -/
structure Setup where
  config : ServerConfig
  isHelpExit : Bool := false
  isExit : Bool := false

namespace Setup

def setText (value : Option Bytes) (field : ConfigField Bytes) (s : Setup) : Setup :=
  match value with
  | none => s
  | some text => { s with config := field.set s.config text }

def setInteger (value : Option Bytes) (field : ConfigField ℕ) (T : IntegerType) (s : Setup) :
    Setup :=
  match value with
  | none => s
  | some text =>
    { s with
      config := field.set s.config (parseInteger T 0 text)
      isHelpExit := s.isHelpExit || (T.parse text).isNone }

def setGoogleCacheFilename (value : Option Bytes) (s : Setup) : Setup :=
  match value with
  | none => s
  | some fullPath =>
    { s with
      config := { s.config with isGoogleCacheEnabled := true, googleCacheFullPath := fullPath } }

def setGoogleTiming (value : Option Bytes) (s : Setup) : Setup :=
  match value with
  | none => s
  | some text =>
    match googleTimingOf text with
    | some timing => { s with config := { s.config with googleTiming := timing } }
    | none => { s with isHelpExit := true }

/-- A flag that goes without Google Japanese Input is answered with the help. -/
def setGoogleFlag (isPresent : Bool) (field : ConfigField Bool) (s : Setup) : Setup :=
  if isPresent then
    if s.config.googleTiming = .Disable then { s with isHelpExit := true }
    else { s with config := field.set s.config true }
  else s

def setFlag (isPresent : Bool) (set : Setup → Setup) (s : Setup) : Setup :=
  if isPresent then set s else s

end Setup

/-- `Yaskkserv2CommandLine::setup`. -/
def Yaskkserv2CommandLine.setup (args : ArgMatches) (s : Setup) : Setup :=
  s |> Setup.setText (args.valueOf .Dictionary) .dictionaryFullPath
    |> Setup.setFlag args.version (fun s => { s with isExit := true })
    |> Setup.setText (args.valueOf .ConfigFilename) .fullPath
    |> Setup.setFlag args.noDaemonize
        (fun s => { s with config := { s.config with isNoDaemonize := true } })
    |> Setup.setText (args.valueOf .Port) .port
    |> Setup.setInteger (args.valueOf .MaxConnections) .maxConnections .i32
    |> Setup.setText (args.valueOf .ListenAddress) .listenAddress
    |> Setup.setText (args.valueOf .HostnameAndIpAddressForProtocol3)
        .hostnameAndIpAddressForProtocol3
    |> Setup.setInteger (args.valueOf .GoogleTimeoutMilliseconds) .googleTimeoutMilliseconds .u64
    |> Setup.setGoogleCacheFilename (args.valueOf .GoogleCacheFilename)
    |> Setup.setInteger (args.valueOf .GoogleCacheEntries) .googleCacheEntries .usize
    |> Setup.setInteger (args.valueOf .GoogleCacheExpireSeconds) .googleCacheExpireSeconds .u64
    |> Setup.setInteger (args.valueOf .MaxServerCompletions) .maxServerCompletions .u32
    |> Setup.setGoogleTiming (args.valueOf .GoogleJapaneseInput)
    |> Setup.setGoogleFlag args.googleUseHttp .isHttpEnabled
    |> Setup.setFlag args.midashiUtf8
        (fun s => { s with config := { s.config with isMidashiUtf8 := true } })
    |> Setup.setGoogleFlag args.googleSuggest .isGoogleSuggestEnabled

/-! ## The config file -/

/-- The assignments of a config file: the last one of each key. -/
abbrev Assignments := OptionKey → Option Bytes

/-- White space of a regular expression, in UTF-8. -/
def skipSpaces : Bytes → Bytes
  | 0xc2 :: b :: rest => if b = 0x85 ∨ b = 0xa0 then skipSpaces rest else 0xc2 :: b :: rest
  | 0xe1 :: 0x9a :: 0x80 :: rest => skipSpaces rest
  | 0xe2 :: 0x80 :: b :: rest =>
    if (0x80 ≤ b ∧ b ≤ 0x8a) ∨ b = 0xa8 ∨ b = 0xa9 ∨ b = 0xaf then skipSpaces rest
    else 0xe2 :: 0x80 :: b :: rest
  | 0xe2 :: 0x81 :: 0x9f :: rest => skipSpaces rest
  | 0xe3 :: 0x80 :: 0x80 :: rest => skipSpaces rest
  | b :: rest => if (TAB ≤ b ∧ b ≤ CR) ∨ b = SP then skipSpaces rest else b :: rest
  | [] => []

def toAsciiLowercase (b : UInt8) : UInt8 := if 0x41 ≤ b ∧ b ≤ 0x5a then b + 0x20 else b

/-- The regular expression `^(?i)\s*enable\s*$`. -/
def isEnable (value : Bytes) : Bool :=
  let word := skipSpaces value
  (word.take 6).map toAsciiLowercase == ascii "enable" && (skipSpaces (word.drop 6)).isEmpty

namespace Yaskkserv2ConfigFile

open Yaskkserv2CommandLine

/-- A key is looked at when its field still has the default value: then its value is checked and
set. -/
def setFromFile {α : Type} [DecidableEq α] (key : OptionKey) (field : ConfigField α)
    (validator : Validator) (value : Bytes → α) (candidates : Assignments)
    (config : ServerConfig) : Outcome Bytes ServerConfig :=
  match candidates key with
  | none => .ok config
  | some text =>
    if field.get config = field.get .new then do
      validator text
      return field.set config (value text)
    else .ok config

/-- The macro `validate_and_set_config_integer`. -/
def validateAndSetConfigInteger (key : OptionKey) (field : ConfigField ℕ) (T : IntegerType)
    (validator : Validator) : Assignments → ServerConfig → Outcome Bytes ServerConfig :=
  setFromFile key field validator (parseInteger T 0)

/-- The macro `validate_and_set_config_google_bool`. -/
def validateAndSetConfigGoogleBool (key : OptionKey) (field : ConfigField Bool)
    (candidates : Assignments) (config : ServerConfig) : Outcome Bytes ServerConfig :=
  match candidates key with
  | none => .ok config
  | some text =>
    if field.get config = field.get .new then
      if isEnable text ∧ config.googleTiming = .Disable then .error (ascii "illegal combination")
      else .ok (field.set config (isEnable text))
    else .ok config

/-- `Yaskkserv2ConfigFile::validate_and_set_config`. -/
def validateAndSetConfig (host : Host) (candidates : Assignments) (config : ServerConfig) :
    Outcome Bytes ServerConfig := do
  let config ← setFromFile .Dictionary .dictionaryFullPath (dictionaryValidator host) id
    candidates config
  let config ← setFromFile .Port .port portValidator id candidates config
  let config ← validateAndSetConfigInteger .MaxConnections .maxConnections .i32
    maxConnectionsValidator candidates config
  let config ← setFromFile .ListenAddress .listenAddress (listenAddressValidator host) id
    candidates config
  let config ← setFromFile .HostnameAndIpAddressForProtocol3 .hostnameAndIpAddressForProtocol3
    hostnameAndIpAddressAddressValidator id candidates config
  let config ← validateAndSetConfigInteger .GoogleTimeoutMilliseconds .googleTimeoutMilliseconds
    .u64 googleTimeoutMillisecondsValidator candidates config
  let config ← setFromFile .GoogleCacheFilename .googleCacheFullPath (fun _ => .ok ()) id
    candidates config
  let config ← validateAndSetConfigInteger .GoogleCacheEntries .googleCacheEntries .usize
    googleCacheEntriesValidator candidates config
  let config ← validateAndSetConfigInteger .GoogleCacheExpireSeconds .googleCacheExpireSeconds
    .u64 googleCacheExpireSecondsValidator candidates config
  let config ← validateAndSetConfigInteger .GoogleMaxCandidatesLength .googleMaxCandidatesLength
    .usize googleMaxCandidatesLengthValidator candidates config
  let config ← validateAndSetConfigInteger .MaxServerCompletions .maxServerCompletions .u32
    maxServerCompletionsValidator candidates config
  let config ← setFromFile .GoogleJapaneseInput .googleTiming (fun _ => .ok ())
    (fun value => (googleTimingOf value).getD .NotFound) candidates config
  let config ← validateAndSetConfigGoogleBool .GoogleUseHttp .isHttpEnabled candidates config
  let config ← validateAndSetConfigGoogleBool .GoogleSuggest .isGoogleSuggestEnabled candidates
    config
  let config ← validateAndSetConfigGoogleBool .GoogleInsertHiraganaOnlyCandidate
    .googleInsertHiraganaOnlyCandidate candidates config
  let config ← validateAndSetConfigGoogleBool .GoogleInsertKatakanaOnlyCandidate
    .googleInsertKatakanaOnlyCandidate candidates config
  validateAndSetConfigGoogleBool .GoogleInsertHankakuKatakanaOnlyCandidate
    .googleInsertHankakuKatakanaOnlyCandidate candidates config

/-- `Yaskkserv2ConfigFile::read`, of the assignments in the file, if there is one. -/
def read (host : Host) (file : Option Assignments) (config : ServerConfig) :
    Result ServerConfig :=
  match file with
  | none => .ok config
  | some candidates =>
    match validateAndSetConfig host candidates config with
    | .ok config => .ok config
    | .error _ => .error .commandLine
    | .panic => .panic
    | .diverge => .diverge

end Yaskkserv2ConfigFile

/-- The configuration that `run_yaskkserv2` starts the server with, unless it exits before. -/
def startConfig (host : Host) (args : ArgMatches) (file : Option Assignments) :
    Result (Option ServerConfig) := do
  let s := Yaskkserv2CommandLine.setup args { config := .new }
  if s.isHelpExit || s.isExit then return none
  let config ← Yaskkserv2ConfigFile.read host file s.config
  return some config

end Yaskkserv2
