import Yaskkserv2.Framework.Layering
import Yaskkserv2.Server.Settings

/-!
# Layers of the settings

The command line goes before the config file, and the config file before the defaults
(`layeredConfig`).  The program fills in what the file assigns wherever a field still has its
default value, so the two agree but for an option that was given its default value; the largest
number of candidates is never taken from the command line, and a cache file of the config file is
not enabled.  `startConfig_eq_layeredConfig_iff` says when the server starts with its settings
layered.
-/

namespace Yaskkserv2

open Framework Yaskkserv2CommandLine Yaskkserv2ConfigFile

/-! ## The layered configuration -/

/-- The assignments of a config file that may be missing. -/
def assignedIn (file : Option Assignments) : Assignments :=
  fun key => file.bind fun candidates => candidates key

/-- Every value passes the check of its option. -/
def IsValid (host : Host) (values : OptionKey → Option Bytes) : Prop :=
  ∀ key, ∀ value ∈ values key, key.validator host value = .ok ()

/-- A timing, by its name. -/
def timingValue (value : Bytes) : GoogleTiming := (googleTimingOf value).getD .NotFound

/-- A flag that was given is set. -/
def givenFlag (isPresent : Bool) : Option Bool := if isPresent then some true else none

/-- The configuration in which the command line goes before the file, and the file before the
defaults. -/
def layeredConfig (args : ArgMatches) (file : Assignments) : ServerConfig where
  dictionaryFullPath :=
    layered (args.given .Dictionary) (file .Dictionary) ServerConfig.new.dictionaryFullPath
  fullPath := (args.given .ConfigFilename).getD ServerConfig.new.fullPath
  isNoDaemonize := args.noDaemonize
  port := layered (args.given .Port) (file .Port) ServerConfig.new.port
  maxConnections :=
    layered ((args.given .MaxConnections).map (parseInteger .i32 0))
      ((file .MaxConnections).map (parseInteger .i32 0)) ServerConfig.new.maxConnections
  listenAddress :=
    layered (args.given .ListenAddress) (file .ListenAddress) ServerConfig.new.listenAddress
  hostnameAndIpAddressForProtocol3 :=
    layered (args.given .HostnameAndIpAddressForProtocol3) (file .HostnameAndIpAddressForProtocol3)
      ServerConfig.new.hostnameAndIpAddressForProtocol3
  googleTimeoutMilliseconds :=
    layered ((args.given .GoogleTimeoutMilliseconds).map (parseInteger .u64 0))
      ((file .GoogleTimeoutMilliseconds).map (parseInteger .u64 0))
      ServerConfig.new.googleTimeoutMilliseconds
  googleCacheFullPath :=
    layered (args.given .GoogleCacheFilename) (file .GoogleCacheFilename)
      ServerConfig.new.googleCacheFullPath
  isGoogleCacheEnabled :=
    (args.given .GoogleCacheFilename).isSome || (file .GoogleCacheFilename).isSome
  googleCacheEntries :=
    layered ((args.given .GoogleCacheEntries).map (parseInteger .usize 0))
      ((file .GoogleCacheEntries).map (parseInteger .usize 0)) ServerConfig.new.googleCacheEntries
  googleCacheExpireSeconds :=
    layered ((args.given .GoogleCacheExpireSeconds).map (parseInteger .u64 0))
      ((file .GoogleCacheExpireSeconds).map (parseInteger .u64 0))
      ServerConfig.new.googleCacheExpireSeconds
  googleMaxCandidatesLength :=
    layered ((args.given .GoogleMaxCandidatesLength).map (parseInteger .usize 0))
      ((file .GoogleMaxCandidatesLength).map (parseInteger .usize 0))
      ServerConfig.new.googleMaxCandidatesLength
  maxServerCompletions :=
    layered ((args.given .MaxServerCompletions).map (parseInteger .u32 0))
      ((file .MaxServerCompletions).map (parseInteger .u32 0))
      ServerConfig.new.maxServerCompletions
  googleTiming :=
    layered ((args.given .GoogleJapaneseInput).map timingValue)
      ((file .GoogleJapaneseInput).map timingValue) ServerConfig.new.googleTiming
  isHttpEnabled :=
    layered (givenFlag args.googleUseHttp) ((file .GoogleUseHttp).map isEnable)
      ServerConfig.new.isHttpEnabled
  isMidashiUtf8 := args.midashiUtf8
  isGoogleSuggestEnabled :=
    layered (givenFlag args.googleSuggest) ((file .GoogleSuggest).map isEnable)
      ServerConfig.new.isGoogleSuggestEnabled
  googleInsertHiraganaOnlyCandidate :=
    layered none ((file .GoogleInsertHiraganaOnlyCandidate).map isEnable)
      ServerConfig.new.googleInsertHiraganaOnlyCandidate
  googleInsertKatakanaOnlyCandidate :=
    layered none ((file .GoogleInsertKatakanaOnlyCandidate).map isEnable)
      ServerConfig.new.googleInsertKatakanaOnlyCandidate
  googleInsertHankakuKatakanaOnlyCandidate :=
    layered none ((file .GoogleInsertHankakuKatakanaOnlyCandidate).map isEnable)
      ServerConfig.new.googleInsertHankakuKatakanaOnlyCandidate

variable {host : Host} {args : ArgMatches} {file candidates : Assignments}

/-! ## Valid numbers -/

/-- A number that passes its check is parsed. -/
lemma isSome_parse_of_rangeValidator {T : IntegerType} {message value : Bytes} {min max : ℤ}
    (h : rangeValidator T message min max value = .ok ()) : (T.parse value).isSome := by
  unfold rangeValidator at h
  split at h
  · simp at h
  · next heq => simp [heq]

lemma nonneg_of_magnitude {digits : Bytes} {n : ℤ} (h : IntegerType.magnitude digits = some n) :
    0 ≤ n := by
  unfold IntegerType.magnitude at h
  split at h
  · simp at h
  · obtain ⟨k, -, rfl⟩ := Option.map_eq_some_iff.mp h
    exact Int.natCast_nonneg k

/-- A positive number is written alike in every type. -/
lemma signed_eq_of_pos {T T' : IntegerType} {value : Bytes} {n : ℤ} (h : T.signed value = some n)
    (hpos : 0 < n) : T'.signed value = some n := by
  cases value with
  | nil => simp [IntegerType.signed] at h
  | cons sign digits =>
    by_cases hplus : sign = 0x2b
    · rw [IntegerType.signed, if_pos hplus] at h ⊢
      exact h
    · have hminus : ¬ (sign = 0x2d ∧ T.min < 0) := by
        intro hminus
        rw [IntegerType.signed, if_neg hplus, if_pos hminus] at h
        obtain ⟨m, hm, rfl⟩ := Option.map_eq_some_iff.mp h
        have hnonneg := nonneg_of_magnitude hm
        omega
      rw [IntegerType.signed, if_neg hplus, if_neg hminus] at h
      rw [IntegerType.signed, if_neg hplus]
      split
      · next hsign =>
        -- the digits do not begin with a minus sign
        rw [hsign.1] at h
        exact absurd h (by simp [IntegerType.magnitude, IntegerType.digitsFrom])
      · exact h

/-- A number between one and the bounds of two types is parsed by both. -/
lemma isSome_parse_of_rangeValidator_of_pos {T T' : IntegerType} {message value : Bytes}
    {min max : ℤ} (h : rangeValidator T message min max value = .ok ()) (hmin : 0 < min)
    (hlower : T'.min ≤ 0) (hupper : max ≤ T'.max) : (T'.parse value).isSome := by
  unfold rangeValidator at h
  split at h
  · simp at h
  · next n hparse =>
    split at h
    · simp at h
    · next hbounds =>
      obtain ⟨hsigned, -⟩ := Option.filter_eq_some_iff.mp hparse
      have hsigned' : T'.signed value = some n := signed_eq_of_pos hsigned (by omega)
      rw [IntegerType.parse, hsigned', Option.filter_some, if_pos]
      · rfl
      · simp only [decide_eq_true_eq]
        omega

/-! ## What the command line sets -/

section Setup

variable {s : Setup}

lemma setText_eq (value : Option Bytes) (field : ConfigField Bytes) :
    s.setText value field =
      { s with config := field.set s.config (value.getD (field.get s.config)) } := by
  cases value with
  | none => rw [Option.getD_none, field.set_get, Setup.setText]
  | some text => rfl

lemma setInteger_eq {value : Option Bytes} {field : ConfigField ℕ} {T : IntegerType}
    (h : ∀ text ∈ value, (T.parse text).isSome) :
    s.setInteger value field T =
      { s with
        config := field.set s.config ((value.map (parseInteger T 0)).getD (field.get s.config)) }
    := by
  cases value with
  | none => rw [Option.map_none, Option.getD_none, field.set_get, Setup.setInteger]
  | some text =>
    obtain ⟨n, hn⟩ := Option.isSome_iff_exists.mp (h text rfl)
    simp [Setup.setInteger, hn]

lemma setGoogleTiming_eq {value : Option Bytes} (h : ∀ text ∈ value, (googleTimingOf text).isSome) :
    s.setGoogleTiming value =
      { s with
        config := { s.config with
          googleTiming := (value.map timingValue).getD s.config.googleTiming } } := by
  cases value with
  | none => rfl
  | some text =>
    obtain ⟨timing, htiming⟩ := Option.isSome_iff_exists.mp (h text rfl)
    simp [Setup.setGoogleTiming, timingValue, htiming]

lemma setGoogleCacheFilename_eq (value : Option Bytes) :
    s.setGoogleCacheFilename value =
      { s with
        config := { s.config with
          isGoogleCacheEnabled := value.isSome || s.config.isGoogleCacheEnabled
          googleCacheFullPath := value.getD s.config.googleCacheFullPath } } := by
  cases value <;> rfl

lemma setGoogleFlag_of_ne (isPresent : Bool) (field : ConfigField Bool)
    (h : isPresent = true → s.config.googleTiming ≠ .Disable) :
    s.setGoogleFlag isPresent field =
      { s with
        config := field.set s.config ((givenFlag isPresent).getD (field.get s.config)) } := by
  cases isPresent with
  | false =>
    rw [Setup.setGoogleFlag, if_neg Bool.false_ne_true, givenFlag, if_neg Bool.false_ne_true,
      Option.getD_none, field.set_get]
  | true => rw [Setup.setGoogleFlag, if_pos rfl, if_neg (h rfl), givenFlag, if_pos rfl,
      Option.getD_some]

lemma setFlag_isExit (isPresent : Bool) :
    s.setFlag isPresent (fun s => { s with isExit := true }) =
      { s with isExit := isPresent || s.isExit } := by
  cases isPresent <;> rfl

lemma setFlag_isNoDaemonize (isPresent : Bool) :
    s.setFlag isPresent (fun s => { s with config := { s.config with isNoDaemonize := true } }) =
      { s with
        config := { s.config with isNoDaemonize := isPresent || s.config.isNoDaemonize } } := by
  cases isPresent <;> rfl

lemma setFlag_isMidashiUtf8 (isPresent : Bool) :
    s.setFlag isPresent (fun s => { s with config := { s.config with isMidashiUtf8 := true } }) =
      { s with
        config := { s.config with isMidashiUtf8 := isPresent || s.config.isMidashiUtf8 } } := by
  cases isPresent <;> rfl

/-- The configuration that the command line makes. -/
def commandLineConfig (args : ArgMatches) : ServerConfig :=
  { layeredConfig args fun _ => none with
    googleMaxCandidatesLength := ServerConfig.new.googleMaxCandidatesLength }

/-- Flags of Google Japanese Input that come with its being disabled. -/
def IsRefusedCommand (args : ArgMatches) : Prop :=
  (args.given .GoogleJapaneseInput).map timingValue = some .Disable ∧
    (args.googleUseHttp = true ∨ args.googleSuggest = true)

lemma valueOf_eq_some {key : OptionKey} {d : Bytes} (h : key.defaultValue = some d) :
    args.valueOf key = some ((args.given key).getD d) := by
  rw [ArgMatches.valueOf, h]
  cases args.given key <;> rfl

lemma setInteger_valueOf (key : OptionKey) {d : Bytes} {field : ConfigField ℕ} {T : IntegerType}
    (hdefault : key.defaultValue = some d) (hd : (T.parse d).isSome)
    (hgiven : ∀ text ∈ args.given key, (T.parse text).isSome) :
    s.setInteger (args.valueOf key) field T =
      { s with
        config := field.set s.config
          (((args.given key).map (parseInteger T 0)).getD (parseInteger T 0 d)) } := by
  rw [valueOf_eq_some hdefault, setInteger_eq]
  · cases args.given key <;> rfl
  · intro text htext
    obtain rfl := Option.some_injective _ htext
    cases hvalue : args.given key with
    | none => exact hd
    | some value => exact hgiven value hvalue

lemma setText_valueOf (key : OptionKey) {d : Bytes} {field : ConfigField Bytes}
    (hdefault : key.defaultValue = some d) :
    s.setText (args.valueOf key) field =
      { s with config := field.set s.config ((args.given key).getD d) } := by
  rw [valueOf_eq_some hdefault]
  rfl

lemma valueOf_eq_given (key : OptionKey) (h : key.defaultValue = none) :
    args.valueOf key = args.given key := by
  rw [ArgMatches.valueOf, h, Option.or_none]

/-- The numbers given on the command line are parsed. -/
structure AreParsed (args : ArgMatches) : Prop where
  maxConnections : ∀ text ∈ args.given .MaxConnections, (IntegerType.i32.parse text).isSome
  googleTimeoutMilliseconds :
    ∀ text ∈ args.given .GoogleTimeoutMilliseconds, (IntegerType.u64.parse text).isSome
  googleCacheEntries :
    ∀ text ∈ args.given .GoogleCacheEntries, (IntegerType.usize.parse text).isSome
  googleCacheExpireSeconds :
    ∀ text ∈ args.given .GoogleCacheExpireSeconds, (IntegerType.u64.parse text).isSome
  maxServerCompletions :
    ∀ text ∈ args.given .MaxServerCompletions, (IntegerType.u32.parse text).isSome

lemma areParsed (h : IsValid host args.given) : AreParsed args where
  maxConnections text htext := isSome_parse_of_rangeValidator (h .MaxConnections text htext)
  googleTimeoutMilliseconds text htext :=
    isSome_parse_of_rangeValidator (h .GoogleTimeoutMilliseconds text htext)
  googleCacheEntries text htext :=
    isSome_parse_of_rangeValidator (h .GoogleCacheEntries text htext)
  googleCacheExpireSeconds text htext :=
    isSome_parse_of_rangeValidator (h .GoogleCacheExpireSeconds text htext)
  maxServerCompletions text htext :=
    isSome_parse_of_rangeValidator_of_pos (h .MaxServerCompletions text htext) (by decide)
      (by decide) (by decide)

lemma isSome_googleTimingOf (h : IsValid host args.given) :
    ∀ text ∈ args.given .GoogleJapaneseInput, (googleTimingOf text).isSome := by
  intro text htext
  by_contra hnone
  have hvalid := h .GoogleJapaneseInput text htext
  simp only [OptionKey.validator, if_neg hnone] at hvalid
  simp at hvalid

/-- The default texts of the numbers stand for the default values. -/
lemma parseInteger_defaultValue :
    parseInteger .i32 0 (ascii "16") = ServerConfig.new.maxConnections ∧
    parseInteger .u64 0 (ascii "1000") = ServerConfig.new.googleTimeoutMilliseconds ∧
    parseInteger .usize 0 (ascii "1024") = ServerConfig.new.googleCacheEntries ∧
    parseInteger .u64 0 (ascii "2592000") = ServerConfig.new.googleCacheExpireSeconds ∧
    parseInteger .u32 0 (ascii "64") = ServerConfig.new.maxServerCompletions := by
  decide +kernel

/-- The part of `setup` before the flags of Google Japanese Input. -/
lemma setup_eq_setGoogleFlag (h : IsValid host args.given) :
    setup args { config := .new } =
      Setup.setGoogleFlag args.googleSuggest .isGoogleSuggestEnabled
        (Setup.setFlag args.midashiUtf8
          (fun s => { s with config := { s.config with isMidashiUtf8 := true } })
          (Setup.setGoogleFlag args.googleUseHttp .isHttpEnabled
            { config :=
                { commandLineConfig args with
                  isHttpEnabled := false
                  isMidashiUtf8 := false
                  isGoogleSuggestEnabled := false }
              isExit := args.version })) := by
  obtain ⟨hconnections, htimeout, hentries, hexpire, hcompletions⟩ := areParsed h
  obtain ⟨h16, h1000, h1024, h2592000, h64⟩ := parseInteger_defaultValue
  have hdaemonize : ServerConfig.new.isNoDaemonize = false := rfl
  have hcache : ServerConfig.new.isGoogleCacheEnabled = false := rfl
  rw [setup]
  congr 3
  simp only [valueOf_eq_given .Dictionary rfl, setText_eq (args.given .Dictionary),
    valueOf_eq_given .ConfigFilename rfl, setText_eq (args.given .ConfigFilename),
    setText_valueOf .Port rfl,
    setInteger_valueOf .MaxConnections rfl (by decide +kernel) hconnections,
    setText_valueOf .ListenAddress rfl,
    setText_valueOf .HostnameAndIpAddressForProtocol3 rfl,
    setInteger_valueOf .GoogleTimeoutMilliseconds rfl (by decide +kernel) htimeout,
    valueOf_eq_given .GoogleCacheFilename rfl, setGoogleCacheFilename_eq,
    setInteger_valueOf .GoogleCacheEntries rfl (by decide +kernel) hentries,
    setInteger_valueOf .GoogleCacheExpireSeconds rfl (by decide +kernel) hexpire,
    setInteger_valueOf .MaxServerCompletions rfl (by decide +kernel) hcompletions,
    valueOf_eq_given .GoogleJapaneseInput rfl, setGoogleTiming_eq (isSome_googleTimingOf h),
    setFlag_isExit, setFlag_isNoDaemonize, ConfigField.dictionaryFullPath, ConfigField.fullPath,
    ConfigField.port, ConfigField.maxConnections, ConfigField.listenAddress,
    ConfigField.hostnameAndIpAddressForProtocol3, ConfigField.googleTimeoutMilliseconds,
    ConfigField.googleCacheEntries, ConfigField.googleCacheExpireSeconds,
    ConfigField.maxServerCompletions, commandLineConfig, layeredConfig, layered, Option.or_none,
    Option.map_none, Bool.or_false, Option.isSome_none, hdaemonize, hcache, h16, h1000, h1024,
    h2592000, h64]
  rfl

lemma googleTiming_commandLineConfig :
    (commandLineConfig args).googleTiming =
      ((args.given .GoogleJapaneseInput).map timingValue).getD .NotFound := by
  simp only [commandLineConfig, layeredConfig, layered, Option.map_none, Option.or_none]
  rfl

lemma ne_disable_of_not_isRefusedCommand (hrefused : ¬ IsRefusedCommand args)
    (hflag : args.googleUseHttp = true ∨ args.googleSuggest = true) :
    (commandLineConfig args).googleTiming ≠ .Disable := by
  intro hdisable
  rw [googleTiming_commandLineConfig] at hdisable
  cases hgiven : (args.given .GoogleJapaneseInput).map timingValue with
  | none => simp [hgiven] at hdisable
  | some timing =>
    rw [hgiven, Option.getD_some] at hdisable
    exact hrefused ⟨by rw [hgiven, hdisable], hflag⟩

/-- A command line that is not refused sets its configuration. -/
lemma setup_eq (h : IsValid host args.given) (hrefused : ¬ IsRefusedCommand args) :
    setup args { config := .new } =
      { config := commandLineConfig args, isExit := args.version } := by
  have hhttp (hflag : args.googleUseHttp = true) :=
    ne_disable_of_not_isRefusedCommand hrefused (Or.inl hflag)
  have hsuggest (hflag : args.googleSuggest = true) :=
    ne_disable_of_not_isRefusedCommand hrefused (Or.inr hflag)
  rw [setup_eq_setGoogleFlag h, setGoogleFlag_of_ne args.googleUseHttp .isHttpEnabled hhttp,
    setFlag_isMidashiUtf8, setGoogleFlag_of_ne args.googleSuggest .isGoogleSuggestEnabled hsuggest]
  simp only [ConfigField.isHttpEnabled, ConfigField.isGoogleSuggestEnabled, commandLineConfig,
    layeredConfig, layered, Option.map_none, Option.or_none, Bool.or_false]
  rfl

/-- A refused command line is answered with the help. -/
lemma isHelpExit_setup (h : IsValid host args.given) (hrefused : IsRefusedCommand args) :
    (setup args { config := .new }).isHelpExit = true := by
  have hdisable : (commandLineConfig args).googleTiming = .Disable := by
    rw [googleTiming_commandLineConfig, hrefused.1, Option.getD_some]
  rw [setup_eq_setGoogleFlag h, setFlag_isMidashiUtf8]
  rcases hrefused.2 with hhttp | hsuggest
  · cases hsuggest : args.googleSuggest <;>
      simp [Setup.setGoogleFlag, hhttp, hdisable]
  · cases hhttp : args.googleUseHttp <;>
      simp [Setup.setGoogleFlag, hsuggest, hdisable]

end Setup

/-! ## What the config file sets -/

section File

variable {config config' : ServerConfig}

/-- A valid value is filled in. -/
lemma setFromFile_eq {α : Type} [DecidableEq α] {key : OptionKey} {field : ConfigField α}
    {validator : Validator} {value : Bytes → α}
    (h : ∀ text ∈ candidates key, validator text = .ok ()) :
    setFromFile key field validator value candidates config =
      .ok (field.set config
        (fillIn (field.get .new) (field.get config) ((candidates key).map value))) := by
  unfold setFromFile
  split
  · next hkey => rw [hkey, Option.map_none, fillIn_none, field.set_get]
  · next text hkey =>
    rw [h text hkey, hkey, Option.map_some]
    by_cases hdefault : field.get config = field.get .new
    · rw [if_pos hdefault, hdefault, fillIn_self, Option.getD_some]
      rfl
    · rw [if_neg hdefault, fillIn_of_ne hdefault, field.set_get]

/-- An enabled flag that Google Japanese Input goes without. -/
def IsBlocked (key : OptionKey) (field : ConfigField Bool) (candidates : Assignments)
    (config : ServerConfig) : Prop :=
  field.get config = field.get .new ∧ (candidates key).map isEnable = some true ∧
    config.googleTiming = .Disable

lemma validateAndSetConfigGoogleBool_eq_ok {key : OptionKey} {field : ConfigField Bool} :
    validateAndSetConfigGoogleBool key field candidates config = .ok config' ↔
      config' = field.set config
          (fillIn (field.get .new) (field.get config) ((candidates key).map isEnable)) ∧
        ¬ IsBlocked key field candidates config := by
  unfold validateAndSetConfigGoogleBool IsBlocked
  split
  · next hkey =>
    rw [hkey, Option.map_none, fillIn_none, field.set_get]
    simp only [Outcome.ok.injEq, reduceCtorEq, false_and, and_false, not_false_eq_true, and_true]
    exact eq_comm
  · next text hkey =>
    rw [hkey, Option.map_some, Option.some_inj]
    by_cases hdefault : field.get config = field.get .new
    · rw [if_pos hdefault, hdefault, fillIn_self, Option.getD_some]
      split
      · next hblocked => simp [hblocked.1, hblocked.2]
      · next hblocked =>
        simp only [Outcome.ok.injEq, true_and, hblocked, not_false_eq_true, and_true]
        exact eq_comm
    · rw [if_neg hdefault, fillIn_of_ne hdefault, field.set_get]
      simp only [Outcome.ok.injEq, hdefault, false_and, not_false_eq_true, and_true]
      exact eq_comm

/-- What the config file makes of a configuration. -/
def fileConfig (candidates : Assignments) (config : ServerConfig) : ServerConfig :=
  { config with
    dictionaryFullPath :=
      fillIn ServerConfig.new.dictionaryFullPath config.dictionaryFullPath (candidates .Dictionary)
    port := fillIn ServerConfig.new.port config.port (candidates .Port)
    maxConnections :=
      fillIn ServerConfig.new.maxConnections config.maxConnections
        ((candidates .MaxConnections).map (parseInteger .i32 0))
    listenAddress :=
      fillIn ServerConfig.new.listenAddress config.listenAddress (candidates .ListenAddress)
    hostnameAndIpAddressForProtocol3 :=
      fillIn ServerConfig.new.hostnameAndIpAddressForProtocol3
        config.hostnameAndIpAddressForProtocol3 (candidates .HostnameAndIpAddressForProtocol3)
    googleTimeoutMilliseconds :=
      fillIn ServerConfig.new.googleTimeoutMilliseconds config.googleTimeoutMilliseconds
        ((candidates .GoogleTimeoutMilliseconds).map (parseInteger .u64 0))
    googleCacheFullPath :=
      fillIn ServerConfig.new.googleCacheFullPath config.googleCacheFullPath
        (candidates .GoogleCacheFilename)
    googleCacheEntries :=
      fillIn ServerConfig.new.googleCacheEntries config.googleCacheEntries
        ((candidates .GoogleCacheEntries).map (parseInteger .usize 0))
    googleCacheExpireSeconds :=
      fillIn ServerConfig.new.googleCacheExpireSeconds config.googleCacheExpireSeconds
        ((candidates .GoogleCacheExpireSeconds).map (parseInteger .u64 0))
    googleMaxCandidatesLength :=
      fillIn ServerConfig.new.googleMaxCandidatesLength config.googleMaxCandidatesLength
        ((candidates .GoogleMaxCandidatesLength).map (parseInteger .usize 0))
    maxServerCompletions :=
      fillIn ServerConfig.new.maxServerCompletions config.maxServerCompletions
        ((candidates .MaxServerCompletions).map (parseInteger .u32 0))
    googleTiming :=
      fillIn ServerConfig.new.googleTiming config.googleTiming
        ((candidates .GoogleJapaneseInput).map timingValue)
    isHttpEnabled :=
      fillIn ServerConfig.new.isHttpEnabled config.isHttpEnabled
        ((candidates .GoogleUseHttp).map isEnable)
    isGoogleSuggestEnabled :=
      fillIn ServerConfig.new.isGoogleSuggestEnabled config.isGoogleSuggestEnabled
        ((candidates .GoogleSuggest).map isEnable)
    googleInsertHiraganaOnlyCandidate :=
      fillIn ServerConfig.new.googleInsertHiraganaOnlyCandidate
        config.googleInsertHiraganaOnlyCandidate
        ((candidates .GoogleInsertHiraganaOnlyCandidate).map isEnable)
    googleInsertKatakanaOnlyCandidate :=
      fillIn ServerConfig.new.googleInsertKatakanaOnlyCandidate
        config.googleInsertKatakanaOnlyCandidate
        ((candidates .GoogleInsertKatakanaOnlyCandidate).map isEnable)
    googleInsertHankakuKatakanaOnlyCandidate :=
      fillIn ServerConfig.new.googleInsertHankakuKatakanaOnlyCandidate
        config.googleInsertHankakuKatakanaOnlyCandidate
        ((candidates .GoogleInsertHankakuKatakanaOnlyCandidate).map isEnable) }

/-- A config file whose flags are an illegal combination. -/
def IsRefusedFile (candidates : Assignments) (config : ServerConfig) : Prop :=
  (fileConfig candidates config).googleTiming = .Disable ∧
    ((config.isHttpEnabled = ServerConfig.new.isHttpEnabled ∧
        (candidates .GoogleUseHttp).map isEnable = some true) ∨
      (config.isGoogleSuggestEnabled = ServerConfig.new.isGoogleSuggestEnabled ∧
        (candidates .GoogleSuggest).map isEnable = some true) ∨
      (config.googleInsertHiraganaOnlyCandidate =
          ServerConfig.new.googleInsertHiraganaOnlyCandidate ∧
        (candidates .GoogleInsertHiraganaOnlyCandidate).map isEnable = some true) ∨
      (config.googleInsertKatakanaOnlyCandidate =
          ServerConfig.new.googleInsertKatakanaOnlyCandidate ∧
        (candidates .GoogleInsertKatakanaOnlyCandidate).map isEnable = some true) ∨
      (config.googleInsertHankakuKatakanaOnlyCandidate =
          ServerConfig.new.googleInsertHankakuKatakanaOnlyCandidate ∧
        (candidates .GoogleInsertHankakuKatakanaOnlyCandidate).map isEnable = some true))

/-- A file with valid assignments is taken over, unless it is refused. -/
lemma validateAndSetConfig_eq_ok (h : IsValid host candidates) :
    validateAndSetConfig host candidates config = .ok config' ↔
      config' = fileConfig candidates config ∧ ¬ IsRefusedFile candidates config := by
  have hdictionary : ∀ text ∈ candidates .Dictionary, dictionaryValidator host text = .ok () :=
    h .Dictionary
  have hport : ∀ text ∈ candidates .Port, portValidator text = .ok () := h .Port
  have hconnections :
      ∀ text ∈ candidates .MaxConnections, maxConnectionsValidator text = .ok () :=
    h .MaxConnections
  have haddress : ∀ text ∈ candidates .ListenAddress, listenAddressValidator host text = .ok () :=
    h .ListenAddress
  have hhostname : ∀ text ∈ candidates .HostnameAndIpAddressForProtocol3,
      hostnameAndIpAddressAddressValidator text = .ok () := h .HostnameAndIpAddressForProtocol3
  have htimeout : ∀ text ∈ candidates .GoogleTimeoutMilliseconds,
      googleTimeoutMillisecondsValidator text = .ok () := h .GoogleTimeoutMilliseconds
  have hentries : ∀ text ∈ candidates .GoogleCacheEntries,
      googleCacheEntriesValidator text = .ok () := h .GoogleCacheEntries
  have hexpire : ∀ text ∈ candidates .GoogleCacheExpireSeconds,
      googleCacheExpireSecondsValidator text = .ok () := h .GoogleCacheExpireSeconds
  have hmax : ∀ text ∈ candidates .GoogleMaxCandidatesLength,
      googleMaxCandidatesLengthValidator text = .ok () := h .GoogleMaxCandidatesLength
  have hcompletions : ∀ text ∈ candidates .MaxServerCompletions,
      maxServerCompletionsValidator text = .ok () := h .MaxServerCompletions
  have hunchecked (key : OptionKey) :
      ∀ text ∈ candidates key, (fun _ => .ok () : Validator) text = .ok () := fun _ _ => rfl
  simp only [validateAndSetConfig, validateAndSetConfigInteger, setFromFile_eq hdictionary,
    setFromFile_eq hport, setFromFile_eq hconnections, setFromFile_eq haddress,
    setFromFile_eq hhostname, setFromFile_eq htimeout, setFromFile_eq hentries,
    setFromFile_eq hexpire, setFromFile_eq hmax, setFromFile_eq hcompletions,
    setFromFile_eq (hunchecked _), Outcome.ok_bind, Outcome.bind_eq_ok,
    validateAndSetConfigGoogleBool_eq_ok, IsBlocked, ConfigField.dictionaryFullPath,
    ConfigField.port, ConfigField.maxConnections, ConfigField.listenAddress,
    ConfigField.hostnameAndIpAddressForProtocol3, ConfigField.googleTimeoutMilliseconds,
    ConfigField.googleCacheFullPath, ConfigField.googleCacheEntries,
    ConfigField.googleCacheExpireSeconds, ConfigField.googleMaxCandidatesLength,
    ConfigField.maxServerCompletions, ConfigField.googleTiming, ConfigField.isHttpEnabled,
    ConfigField.isGoogleSuggestEnabled, ConfigField.googleInsertHiraganaOnlyCandidate,
    ConfigField.googleInsertKatakanaOnlyCandidate,
    ConfigField.googleInsertHankakuKatakanaOnlyCandidate, and_assoc, exists_eq_left,
    Option.map_id_fun, id_eq]
  change ¬ (_ ∧ _ ∧ (fileConfig candidates config).googleTiming = .Disable) ∧
    ¬ (_ ∧ _ ∧ (fileConfig candidates config).googleTiming = .Disable) ∧
    ¬ (_ ∧ _ ∧ (fileConfig candidates config).googleTiming = .Disable) ∧
    ¬ (_ ∧ _ ∧ (fileConfig candidates config).googleTiming = .Disable) ∧
    config' = fileConfig candidates config ∧
    ¬ (_ ∧ _ ∧ (fileConfig candidates config).googleTiming = .Disable) ↔ _
  unfold IsRefusedFile
  constructor
  · rintro ⟨hhttp, hsuggest, hhiragana, hkatakana, hconfig, hhankaku⟩
    refine ⟨hconfig, ?_⟩
    rintro ⟨hdisable, h | h | h | h | h⟩
    · exact hhttp ⟨h.1, h.2, hdisable⟩
    · exact hsuggest ⟨h.1, h.2, hdisable⟩
    · exact hhiragana ⟨h.1, h.2, hdisable⟩
    · exact hkatakana ⟨h.1, h.2, hdisable⟩
    · exact hhankaku ⟨h.1, h.2, hdisable⟩
  · rintro ⟨hconfig, hrefused⟩
    refine ⟨?_, ?_, ?_, ?_, hconfig, ?_⟩
    · exact fun h => hrefused ⟨h.2.2, Or.inl ⟨h.1, h.2.1⟩⟩
    · exact fun h => hrefused ⟨h.2.2, Or.inr (Or.inl ⟨h.1, h.2.1⟩)⟩
    · exact fun h => hrefused ⟨h.2.2, Or.inr (Or.inr (Or.inl ⟨h.1, h.2.1⟩))⟩
    · exact fun h => hrefused ⟨h.2.2, Or.inr (Or.inr (Or.inr (Or.inl ⟨h.1, h.2.1⟩)))⟩
    · exact fun h => hrefused ⟨h.2.2, Or.inr (Or.inr (Or.inr (Or.inr ⟨h.1, h.2.1⟩)))⟩

/-- A missing file assigns nothing. -/
lemma fileConfig_of_none : fileConfig (fun _ => none) config = config := by
  simp only [fileConfig, Option.map_none, fillIn_none]

/-- The configuration after a config file, or without one. -/
lemma read_eq_ok {file : Option Assignments} (h : IsValid host (assignedIn file)) :
    Yaskkserv2ConfigFile.read host file config = .ok config' ↔
      config' = fileConfig (assignedIn file) config ∧
        ¬ IsRefusedFile (assignedIn file) config := by
  cases file with
  | none =>
    have hrefused : ¬ IsRefusedFile (assignedIn none) config := by
      rintro ⟨-, h | h | h | h | h⟩ <;> simp [assignedIn] at h
    have hconfig : fileConfig (assignedIn none) config = config := fileConfig_of_none
    rw [Yaskkserv2ConfigFile.read, hconfig]
    simp only [Outcome.ok.injEq, hrefused, not_false_eq_true, and_true]
    exact eq_comm
  | some candidates =>
    rw [← validateAndSetConfig_eq_ok h]
    change _ ↔ validateAndSetConfig host candidates config = .ok config'
    rw [Yaskkserv2ConfigFile.read]
    split
    · next hset => rw [hset, Outcome.ok.injEq, Outcome.ok.injEq]
    · next hset => simp [hset]
    · next hset => simp [hset]
    · next hset => simp [hset]

end File

/-! ## When the settings are layered -/

/-- Whether a value is the default of its option. -/
def OptionKey.IsDefault : OptionKey → Bytes → Prop
  | Dictionary, value => value = ServerConfig.new.dictionaryFullPath
  | Port, value => value = ServerConfig.new.port
  | MaxConnections, value => parseInteger .i32 0 value = ServerConfig.new.maxConnections
  | ListenAddress, value => value = ServerConfig.new.listenAddress
  | HostnameAndIpAddressForProtocol3, value =>
      value = ServerConfig.new.hostnameAndIpAddressForProtocol3
  | GoogleTimeoutMilliseconds, value =>
      parseInteger .u64 0 value = ServerConfig.new.googleTimeoutMilliseconds
  | GoogleCacheFilename, value => value = ServerConfig.new.googleCacheFullPath
  | GoogleCacheEntries, value => parseInteger .usize 0 value = ServerConfig.new.googleCacheEntries
  | GoogleCacheExpireSeconds, value =>
      parseInteger .u64 0 value = ServerConfig.new.googleCacheExpireSeconds
  | MaxServerCompletions, value =>
      parseInteger .u32 0 value = ServerConfig.new.maxServerCompletions
  | GoogleJapaneseInput, value => timingValue value = ServerConfig.new.googleTiming
  | _, _ => True

/-- An option that was given its default value is not assigned another one. -/
def KeepsDefault (args : ArgMatches) (file : Assignments) (key : OptionKey) : Prop :=
  ∀ v ∈ args.given key, key.IsDefault v → ∀ w ∈ file key, key.IsDefault w

/-- Flags that the config file enables, and Google Japanese Input disabled. -/
def IsRefusedCombination (args : ArgMatches) (file : Assignments) : Prop :=
  (layeredConfig args file).googleTiming = .Disable ∧
    ((args.googleUseHttp = false ∧ (file .GoogleUseHttp).map isEnable = some true) ∨
      (args.googleSuggest = false ∧ (file .GoogleSuggest).map isEnable = some true) ∨
      (file .GoogleInsertHiraganaOnlyCandidate).map isEnable = some true ∨
      (file .GoogleInsertKatakanaOnlyCandidate).map isEnable = some true ∨
      (file .GoogleInsertHankakuKatakanaOnlyCandidate).map isEnable = some true)

/-- What the command line and the config file must be like for the settings to be layered. -/
structure IsLayerable (args : ArgMatches) (file : Assignments) : Prop where
  version : args.version = false
  command : ¬ IsRefusedCommand args
  combination : ¬ IsRefusedCombination args file
  keepsDefault : ∀ key, KeepsDefault args file key
  maxCandidates : ∀ v ∈ args.given .GoogleMaxCandidatesLength,
    parseInteger .usize 0 v =
      ((file .GoogleMaxCandidatesLength).map (parseInteger .usize 0)).getD
        ServerConfig.new.googleMaxCandidatesLength
  cacheEnabled :
    (file .GoogleCacheFilename).isSome = true → (args.given .GoogleCacheFilename).isSome = true

lemma eq_true_of_mem_givenFlag {isPresent v : Bool} (h : v ∈ givenFlag isPresent) : v = true := by
  cases isPresent <;> simp_all [givenFlag]

lemma fileConfig_eq_layeredConfig_iff :
    fileConfig file (commandLineConfig args) = layeredConfig args file ↔
      (∀ key, KeepsDefault args file key) ∧
      (∀ v ∈ args.given .GoogleMaxCandidatesLength,
        parseInteger .usize 0 v =
          ((file .GoogleMaxCandidatesLength).map (parseInteger .usize 0)).getD
            ServerConfig.new.googleMaxCandidatesLength) ∧
      ((file .GoogleCacheFilename).isSome = true →
        (args.given .GoogleCacheFilename).isSome = true) := by
  simp only [fileConfig, commandLineConfig, layeredConfig, ServerConfig.mk.injEq, Config.mk.injEq,
    Option.map_none, layered_none_right, fillIn_eq_layered_iff, fillIn_self, layered_none_left,
    Option.isSome_none, Bool.or_false, and_true, true_and, Option.getD_none, Option.mem_map,
    forall_exists_index, and_imp, forall_apply_eq_imp_iff₂]
  constructor
  · rintro ⟨⟨hconnections, hhostname, htiming, hentries, hexpire, hcompletions, hcache, -⟩, hport,
      haddress, hdictionary, htimeout, hfilename, hmax, -⟩
    refine ⟨?_, ?_, ?_⟩
    · intro key
      cases key with
      | Dictionary => exact hdictionary
      | Port => exact hport
      | MaxConnections => exact hconnections
      | ListenAddress => exact haddress
      | HostnameAndIpAddressForProtocol3 => exact hhostname
      | GoogleTimeoutMilliseconds => exact htimeout
      | GoogleCacheFilename => exact hfilename
      | GoogleCacheEntries => exact hentries
      | GoogleCacheExpireSeconds => exact hexpire
      | MaxServerCompletions => exact hcompletions
      | GoogleJapaneseInput => exact htiming
      | _ => exact fun _ _ _ _ _ => trivial
    · intro v hv
      rw [Option.mem_def.mp hv, Option.map_some, layered_some] at hmax
      exact hmax.symm
    · intro hfile
      rw [hfile, Bool.or_true] at hcache
      exact hcache
  · rintro ⟨hkeeps, hmax, hcache⟩
    refine ⟨⟨hkeeps .MaxConnections, hkeeps .HostnameAndIpAddressForProtocol3,
      hkeeps .GoogleJapaneseInput, hkeeps .GoogleCacheEntries, hkeeps .GoogleCacheExpireSeconds,
      hkeeps .MaxServerCompletions, ?_, ?_⟩, hkeeps .Port, hkeeps .ListenAddress,
      hkeeps .Dictionary, hkeeps .GoogleTimeoutMilliseconds, hkeeps .GoogleCacheFilename, ?_, ?_⟩
    · cases hgiven : (args.given .GoogleCacheFilename).isSome <;> simp_all
    · intro v hv hfalse
      exact absurd hfalse (by rw [eq_true_of_mem_givenFlag hv]; decide)
    · cases hgiven : args.given .GoogleMaxCandidatesLength with
      | none => rw [Option.map_none, layered_none_left]
      | some v =>
        rw [Option.map_some, layered_some]
        exact (hmax v hgiven).symm
    · intro v hv hfalse
      exact absurd hfalse (by rw [eq_true_of_mem_givenFlag hv]; decide)

lemma getD_givenFlag_eq_false_iff {isPresent : Bool} :
    (givenFlag isPresent).getD false = false ↔ isPresent = false := by
  cases isPresent <;> decide

/-- What is refused of the config file, by the settings that were given. -/
lemma isRefusedFile_iff
    (h : layeredConfig args file = fileConfig file (commandLineConfig args)) :
    IsRefusedFile file (commandLineConfig args) ↔ IsRefusedCombination args file := by
  have hhttp : (commandLineConfig args).isHttpEnabled = ServerConfig.new.isHttpEnabled ↔
      args.googleUseHttp = false := by
    rw [← getD_givenFlag_eq_false_iff]
    simp only [commandLineConfig, layeredConfig, Option.map_none, layered_none_right]
    rfl
  have hsuggest :
      (commandLineConfig args).isGoogleSuggestEnabled = ServerConfig.new.isGoogleSuggestEnabled ↔
        args.googleSuggest = false := by
    rw [← getD_givenFlag_eq_false_iff]
    simp only [commandLineConfig, layeredConfig, Option.map_none, layered_none_right]
    rfl
  have hhiragana : (commandLineConfig args).googleInsertHiraganaOnlyCandidate =
      ServerConfig.new.googleInsertHiraganaOnlyCandidate := rfl
  have hkatakana : (commandLineConfig args).googleInsertKatakanaOnlyCandidate =
      ServerConfig.new.googleInsertKatakanaOnlyCandidate := rfl
  have hhankaku : (commandLineConfig args).googleInsertHankakuKatakanaOnlyCandidate =
      ServerConfig.new.googleInsertHankakuKatakanaOnlyCandidate := rfl
  rw [IsRefusedFile, IsRefusedCombination, ← h, hhttp, hsuggest]
  simp only [hhiragana, hkatakana, hhankaku, true_and]

/-- The server starts with its settings layered exactly when no option was given its default value
against another one in the config file, the largest number of candidates comes from the config file
or is the same there, a cache file of the config file was also given on the command line, and
nothing is refused. -/
theorem startConfig_eq_layeredConfig_iff (host : Host) (args : ArgMatches)
    (file : Option Assignments) (hargs : IsValid host args.given)
    (hfile : IsValid host (assignedIn file)) :
    startConfig host args file = .ok (some (layeredConfig args (assignedIn file))) ↔
      IsLayerable args (assignedIn file) := by
  by_cases hcommand : IsRefusedCommand args
  · have hhelp := isHelpExit_setup hargs hcommand
    have hexit : startConfig host args file = .ok none := by
      simp [startConfig, hhelp]
    rw [hexit]
    exact ⟨fun h => by simp at h, fun h => absurd hcommand h.command⟩
  · rw [startConfig, setup_eq hargs hcommand]
    cases hversion : args.version with
    | true =>
      constructor
      · intro h
        simp at h
      · intro h
        exact absurd (hversion.symm.trans h.version) (by decide)
    | false =>
      have hread : (Yaskkserv2ConfigFile.read host file (commandLineConfig args) >>=
          fun config => (pure (some config) : Result (Option ServerConfig))) =
            .ok (some (layeredConfig args (assignedIn file))) ↔
          Yaskkserv2ConfigFile.read host file (commandLineConfig args) =
            .ok (layeredConfig args (assignedIn file)) := by
        simp [Outcome.bind_eq_ok]
      simp only [Bool.or_self, Bool.false_eq_true, if_false]
      refine (hread.trans (read_eq_ok hfile)).trans ?_
      constructor
      · rintro ⟨hconfig, hrefused⟩
        obtain ⟨hkeeps, hmax, hcache⟩ := fileConfig_eq_layeredConfig_iff.mp hconfig.symm
        exact ⟨hversion, hcommand, mt (isRefusedFile_iff hconfig).mpr hrefused, hkeeps, hmax,
          hcache⟩
      · intro h
        have hconfig := fileConfig_eq_layeredConfig_iff.mpr
          ⟨h.keepsDefault, h.maxCandidates, h.cacheEnabled⟩
        exact ⟨hconfig.symm, mt (isRefusedFile_iff hconfig.symm).mp h.combination⟩

/-! ## Settings with one option -/

/-- One option, and no other. -/
def oneOption (key : OptionKey) (value : Bytes) : OptionKey → Option Bytes :=
  fun key' => if key' = key then some value else none

/-- A command line with one option. -/
def oneArgument (key : OptionKey) (value : Bytes) : ArgMatches :=
  ⟨oneOption key value, false, false, false, false, false⟩

lemma mem_oneOption {key key' : OptionKey} {value value' : Bytes} :
    value' ∈ oneOption key value key' ↔ key' = key ∧ value = value' := by
  unfold oneOption
  split
  · next hkey => simp [hkey]
  · next hkey => simp [hkey]

lemma isValid_oneOption {key : OptionKey} {value : Bytes}
    (h : key.validator host value = .ok ()) : IsValid host (oneOption key value) := by
  intro key' value' hmem
  obtain ⟨rfl, rfl⟩ := mem_oneOption.mp hmem
  exact h

/-- A host without files and addresses. -/
def emptyHost : Host := ⟨fun _ => false, fun _ => false⟩

/-- A port on the command line, and another in the config file. -/
theorem startConfig_port :
    IsValid emptyHost (oneArgument .Port (ascii "1179")).given ∧
    IsValid emptyHost (assignedIn (some (oneOption .Port (ascii "1180")))) ∧
    startConfig emptyHost (oneArgument .Port (ascii "1179"))
        (some (oneOption .Port (ascii "1180"))) =
      .ok (some (layeredConfig (oneArgument .Port (ascii "1179"))
        (assignedIn (some (oneOption .Port (ascii "1180")))))) := by
  have hargs : IsValid emptyHost (oneArgument .Port (ascii "1179")).given :=
    isValid_oneOption (by decide +kernel)
  have hfile : IsValid emptyHost (assignedIn (some (oneOption .Port (ascii "1180")))) := by
    change IsValid emptyHost (oneOption .Port (ascii "1180"))
    exact isValid_oneOption (by decide +kernel)
  have hkeeps (key : OptionKey) : KeepsDefault (oneArgument .Port (ascii "1179"))
      (assignedIn (some (oneOption .Port (ascii "1180")))) key := by
    intro v hv hdefault
    obtain ⟨rfl, rfl⟩ := mem_oneOption.mp hv
    have hport : ascii "1179" = ServerConfig.new.port := hdefault
    exact absurd hport (by decide +kernel)
  refine ⟨hargs, hfile, (startConfig_eq_layeredConfig_iff emptyHost
    (oneArgument .Port (ascii "1179")) (some (oneOption .Port (ascii "1180"))) hargs hfile).mpr ?_⟩
  exact
    { version := rfl
      command := by simp [IsRefusedCommand, oneArgument]
      combination := by
        simp [IsRefusedCombination, layeredConfig, oneArgument, oneOption, assignedIn,
          ServerConfig.new]
      keepsDefault := hkeeps
      maxCandidates := by simp [oneArgument, oneOption]
      cacheEnabled := by simp [assignedIn, oneOption] }

/-- The largest number of candidates, given on the command line, is not used. -/
theorem startConfig_googleMaxCandidatesLength :
    ¬ ∀ (host : Host) (args : ArgMatches) (file : Option Assignments),
      IsValid host args.given → IsValid host (assignedIn file) →
      startConfig host args file = .ok (some (layeredConfig args (assignedIn file))) := by
  intro h
  have hargs : IsValid emptyHost (oneArgument .GoogleMaxCandidatesLength (ascii "5")).given :=
    isValid_oneOption (by decide +kernel)
  have hfile : IsValid emptyHost (assignedIn none) := by
    intro key value hmem
    simp [assignedIn] at hmem
  have hcommand : ¬ IsRefusedCommand (oneArgument .GoogleMaxCandidatesLength (ascii "5")) := by
    simp [IsRefusedCommand, oneArgument]
  have hlayered := h emptyHost (oneArgument .GoogleMaxCandidatesLength (ascii "5")) none hargs hfile
  have hstart : startConfig emptyHost (oneArgument .GoogleMaxCandidatesLength (ascii "5")) none =
      .ok (some (commandLineConfig (oneArgument .GoogleMaxCandidatesLength (ascii "5")))) := by
    rw [startConfig, setup_eq hargs hcommand]
    rfl
  have hconfig := Option.some_injective _ (Outcome.ok.inj (hstart.symm.trans hlayered))
  have hmax := congrArg ServerConfig.googleMaxCandidatesLength hconfig
  exact absurd hmax (by decide +kernel)

end Yaskkserv2
