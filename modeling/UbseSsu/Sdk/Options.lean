import UbseSsu.Library.Transition
import UbseSsu.Sdk.Requests

/-!
# The options of the SDK

`ubse_ssu_sdk_init`, `ubse_ssu_sdk_fini` and `ensure_initialized` of
`ubse_ssu_sdk.cpp` on the file-scope variables, and what the later calls make
of these: a path or timeout that is not stored comes from the environment, else
it is the default.  The lines in the log are left out.
-/

namespace UbseSsu.Sdk

/-- `ubse_ssu_sdk_init_options_t`. -/
structure SdkInitOptions where
  structSize : UInt64
  socketPath : CString
  logPath : CString
  responseTimeoutMs : UInt32
deriving DecidableEq

/-- `offsetof(ubse_ssu_sdk_init_options_t, log_path)`. -/
abbrev logPathOffset : UInt64 := 16
/-- `offsetof(ubse_ssu_sdk_init_options_t, response_timeout_ms)`. -/
abbrev responseTimeoutOffset : UInt64 := 24
/-- `sizeof(sdk_socket_path)` and `sizeof(sdk_log_path)`. -/
abbrev sdkPathSize : Nat := 256
/-- `SDK_LAST_ERROR_SIZE`. -/
abbrev lastErrorSize : Nat := 512

/-- The file-scope variables. -/
structure SdkState where
  initialized : Bool
  socketPath : CBuf sdkPathSize
  logPath : CBuf sdkPathSize
  responseTimeoutMs : UInt32
  lastError : CBuf lastErrorSize
deriving DecidableEq

def SdkState.initial : SdkState :=
  { initialized := false
    socketPath := .empty
    logPath := .empty
    responseTimeoutMs := 0
    lastError := .empty }

/-- What `getenv` finds; no variable is an empty one. -/
structure SdkEnvironment where
  ssuMgrSocket : CString
  ubseSsuSdkLog : CString
  ubseSsuSdkResponseTimeoutMs : CString

section Active

def activePath (stored value fallback : CString) : CString :=
  if !isEmptyString stored then stored
  else if !isEmptyString value then value
  else fallback

def activeSocketPath (env : SdkEnvironment) (state : SdkState) : CString :=
  activePath state.socketPath.chars env.ssuMgrSocket
    "/tmp/ubse-ssu-mgr.fifo".toList

def activeLogPath (env : SdkEnvironment) (state : SdkState) : CString :=
  activePath state.logPath.chars env.ubseSsuSdkLog
    "/tmp/ubse-ssu-sdk.log".toList

/-- `UBSE_SSU_SDK_DEFAULT_RESPONSE_TIMEOUT_MS`. -/
abbrev defaultResponseTimeoutMs : UInt32 := 120000

def activeTimeout (stored : UInt32) (value : CString) : UInt32 :=
  if stored ≠ 0 then stored
  else if isEmptyString value then defaultResponseTimeoutMs
  else
    let parsed := strtoul value
    if parsed.outOfRange ∨ ¬parsed.converted ∨ parsed.rest ≠ [] ∨
        parsed.value = 0 ∨ parsed.value > 600000 then
      defaultResponseTimeoutMs
    else UInt32.ofNat parsed.value

def activeResponseTimeoutMs (env : SdkEnvironment) (state : SdkState) :
    UInt32 :=
  activeTimeout state.responseTimeoutMs env.ubseSsuSdkResponseTimeoutMs

end Active

section Calls

def initOptionHasField (opts : Option SdkInitOptions) (offset size : UInt64) :
    Bool :=
  match opts with
  | none => false
  | some given => decide (given.structSize ≥ offset + size)

def SdkState.setLastError (state : SdkState) (text : CString) : SdkState :=
  { state with lastError := copyCstr lastErrorSize text }

/-- `"invalid init options struct_size=%zu required_min=%zu"`. -/
def structSizeText (structSize : UInt64) : CString :=
  "invalid init options struct_size=".toList ++ decimal structSize.toNat ++
    " required_min=".toList ++ decimal logPathOffset.toNat

def SdkState.cleared (state : SdkState) : SdkState :=
  { state with
    socketPath := .empty
    logPath := .empty
    responseTimeoutMs := 0 }

/-- `none` is the error exit. -/
def storeSocketPath (opts : Option SdkInitOptions) (state : SdkState) :
    Option SdkState :=
  match opts with
  | none => some state
  | some given =>
      if isEmptyString given.socketPath then some state
      else if !tokenIsSafe given.socketPath ||
          decide (sdkPathSize ≤ given.socketPath.length) then none
      else some
        { state with socketPath := copyCstr sdkPathSize given.socketPath }

def storeLogPath (opts : Option SdkInitOptions) (state : SdkState) :
    Option SdkState :=
  match opts with
  | none => some state
  | some given =>
      if !initOptionHasField opts logPathOffset 8 ||
          isEmptyString given.logPath then some state
      else if sdkPathSize ≤ given.logPath.length then none
      else some { state with logPath := copyCstr sdkPathSize given.logPath }

def storeResponseTimeout (opts : Option SdkInitOptions) (state : SdkState) :
    SdkState :=
  match opts with
  | none => state
  | some given =>
      if initOptionHasField opts responseTimeoutOffset 4 then
        { state with responseTimeoutMs := given.responseTimeoutMs }
      else state

/-- The part of `ubse_ssu_sdk_init` behind the check of the structure's
size. -/
def storeOptions (opts : Option SdkInitOptions) (state : SdkState) :
    SsuErr × SdkState :=
  let state := state.cleared
  match storeSocketPath opts state with
  | none => (.invalid, state.setLastError "invalid socket path".toList)
  | some state =>
      match storeLogPath opts state with
      | none =>
          (.invalid, state.setLastError "invalid log path: too long".toList)
      | some state =>
          (.ok, { storeResponseTimeout opts state with initialized := true })

def ubseSsuSdkInit (state : SdkState) (opts : Option SdkInitOptions) :
    SsuErr × SdkState :=
  let state := { state with lastError := .empty }
  match opts with
  | none => storeOptions none state
  | some given =>
      if given.structSize < logPathOffset then
        (.invalid, state.setLastError (structSizeText given.structSize))
      else storeOptions (some given) state

def ubseSsuSdkFini (state : SdkState) : SdkState :=
  { state.cleared with initialized := false }

/-- Every other call starts with this. -/
def ensureInitialized (state : SdkState) : SsuErr × SdkState :=
  if state.initialized then (.ok, state) else ubseSsuSdkInit state none

end Calls

section Used

/-- What the variables hold of the options; empty or 0 is not stored. -/
structure SdkOptions where
  socketPath : CString
  logPath : CString
  responseTimeoutMs : UInt32

def SdkOptions.none : SdkOptions :=
  { socketPath := [], logPath := [], responseTimeoutMs := 0 }

def SdkState.options (state : SdkState) : SdkOptions :=
  { socketPath := state.socketPath.chars
    logPath := state.logPath.chars
    responseTimeoutMs := state.responseTimeoutMs }

/-- What later calls use. -/
structure SdkSettings where
  initialized : Bool
  socketPath : CString
  logPath : CString
  responseTimeoutMs : UInt32

def SdkState.settings (env : SdkEnvironment) (state : SdkState) :
    SdkSettings :=
  { initialized := state.initialized
    socketPath := activeSocketPath env state
    logPath := activeLogPath env state
    responseTimeoutMs := activeResponseTimeoutMs env state }

/-- What later calls use of the options of a call that returned `SSU_OK`. -/
def SdkOptions.settings (env : SdkEnvironment) (options : SdkOptions) :
    SdkSettings :=
  { initialized := true
    socketPath := activePath options.socketPath env.ssuMgrSocket
      "/tmp/ubse-ssu-mgr.fifo".toList
    logPath := activePath options.logPath env.ubseSsuSdkLog
      "/tmp/ubse-ssu-sdk.log".toList
    responseTimeoutMs := activeTimeout options.responseTimeoutMs
      env.ubseSsuSdkResponseTimeoutMs }

theorem activePath_injective {left right fallback : CString}
    (same : ∀ value, activePath left value fallback =
      activePath right value fallback) : left = right := by
  -- A variable that is longer than the stored path tells it from no path.
  have distinct : ∀ path : CString, path ≠ [] →
      activePath [] ('/' :: path) fallback ≠
        activePath path ('/' :: path) fallback := by
    intro path present equal
    have lengths := congrArg List.length equal
    simp [activePath, isEmptyString, present] at lengths
  by_cases noLeft : left = []
  · by_cases noRight : right = []
    · rw [noLeft, noRight]
    · exact (distinct right noRight (noLeft ▸ same _)).elim
  · by_cases noRight : right = []
    · exact (distinct left noLeft (noRight ▸ same _).symm).elim
    · simpa [activePath, isEmptyString, noLeft, noRight] using same []

theorem activeTimeout_injective {left right : UInt32}
    (same : ∀ value, activeTimeout left value = activeTimeout right value) :
    left = right := by
  -- Unset and `1` are two environments that no stored timeout serves alike.
  have unset : activeTimeout 0 [] = defaultResponseTimeoutMs := rfl
  have one : activeTimeout 0 "1".toList = 1 := by decide +kernel
  have distinct : ∀ timeout : UInt32, timeout ≠ 0 →
      (∀ value, activeTimeout 0 value = activeTimeout timeout value) →
        False := by
    intro timeout present equal
    have stored : ∀ value, activeTimeout timeout value = timeout :=
      fun _ => if_pos present
    have default := (equal []).trans (stored [])
    have set := (equal "1".toList).trans (stored _)
    rw [unset] at default
    rw [one, ← default] at set
    exact absurd set (by decide)
  by_cases noLeft : left = 0
  · by_cases noRight : right = 0
    · rw [noLeft, noRight]
    · exact (distinct right noRight (noLeft ▸ same)).elim
  · by_cases noRight : right = 0
    · exact (distinct left noLeft
        fun value => (noRight ▸ same value).symm).elim
    · have equal := same []
      rwa [activeTimeout, activeTimeout, if_pos noLeft, if_pos noRight]
        at equal

/-- Two states serve the later calls alike in every environment just when they
hold the same. -/
theorem settings_eq_iff {left right : SdkState} :
    (∀ env, left.settings env = right.settings env) ↔
      left.options = right.options ∧
        left.initialized = right.initialized := by
  constructor
  · intro same
    have fields : ∀ env, left.initialized = right.initialized ∧
        activeSocketPath env left = activeSocketPath env right ∧
        activeLogPath env left = activeLogPath env right ∧
        activeResponseTimeoutMs env left =
          activeResponseTimeoutMs env right := by
      intro env
      simpa [SdkState.settings] using same env
    have socket : left.socketPath.chars = right.socketPath.chars :=
      activePath_injective fun value => (fields ⟨value, [], []⟩).2.1
    have log : left.logPath.chars = right.logPath.chars :=
      activePath_injective fun value => (fields ⟨[], value, []⟩).2.2.1
    have timeout : left.responseTimeoutMs = right.responseTimeoutMs :=
      activeTimeout_injective fun value => (fields ⟨[], [], value⟩).2.2.2
    exact ⟨by simp only [SdkState.options, socket, log, timeout],
      (fields ⟨[], [], []⟩).1⟩
  · rintro ⟨options, flag⟩ env
    simp only [SdkState.options, SdkOptions.mk.injEq] at options
    simp only [SdkState.settings, activeSocketPath, activeLogPath,
      activeResponseTimeoutMs, options, flag]

end Used

section Init

variable {state : SdkState} {opts : Option SdkInitOptions}

/-- The options of a call: what the size of the structure does not cover is
absent. -/
def givenOptions : Option SdkInitOptions → SdkOptions
  | none => .none
  | some given =>
      { socketPath := if 16 ≤ given.structSize.toNat then given.socketPath
          else []
        logPath := if 24 ≤ given.structSize.toNat then given.logPath else []
        responseTimeoutMs :=
          if 28 ≤ given.structSize.toNat then given.responseTimeoutMs else 0 }

def SizeRefused (opts : Option SdkInitOptions) : Prop :=
  ∃ given, opts = some given ∧ given.structSize < logPathOffset

def SocketPathRefused (opts : Option SdkInitOptions) : Prop :=
  (givenOptions opts).socketPath ≠ [] ∧
    (tokenIsSafe (givenOptions opts).socketPath = false ∨
      sdkPathSize ≤ (givenOptions opts).socketPath.length)

def LogPathRefused (opts : Option SdkInitOptions) : Prop :=
  sdkPathSize ≤ (givenOptions opts).logPath.length

instance : Decidable (SocketPathRefused opts) :=
  inferInstanceAs (Decidable (_ ∧ _))

instance : Decidable (LogPathRefused opts) :=
  inferInstanceAs (Decidable (_ ≤ _))

/-- What a call of `ubse_ssu_sdk_init` returns and leaves behind. -/
inductive InitOutcome (state : SdkState) (opts : Option SdkInitOptions) :
    SsuErr → SdkState → Prop
  | size {given : SdkInitOptions} (present : opts = some given)
      (small : given.structSize < logPathOffset) :
      InitOutcome state opts .invalid
        (state.setLastError (structSizeText given.structSize))
  | socketPath (refused : SocketPathRefused opts) :
      InitOutcome state opts .invalid
        (state.cleared.setLastError "invalid socket path".toList)
  | logPath (valid : ¬SocketPathRefused opts)
      (refused : LogPathRefused opts) :
      InitOutcome state opts .invalid
        ({ state.cleared with
            socketPath := copyCstr sdkPathSize
              (givenOptions opts).socketPath }.setLastError
          "invalid log path: too long".toList)
  | stored (socket : ¬SocketPathRefused opts) (log : ¬LogPathRefused opts) :
      InitOutcome state opts .ok
        { initialized := true
          socketPath := copyCstr sdkPathSize (givenOptions opts).socketPath
          logPath := copyCstr sdkPathSize (givenOptions opts).logPath
          responseTimeoutMs := (givenOptions opts).responseTimeoutMs
          lastError := .empty }

theorem storeSocketPath_eq (sized : ¬SizeRefused opts)
    (clear : state.socketPath = .empty) :
    storeSocketPath opts state =
      if SocketPathRefused opts then none
      else some
        { state with
          socketPath := copyCstr sdkPathSize
            (givenOptions opts).socketPath } := by
  have absent : { state with socketPath := copyCstr sdkPathSize [] } =
      state := by
    rw [copyCstr_of_nil, ← clear]
  cases opts with
  | none =>
      rw [if_neg fun refused => refused.1 rfl]
      exact congrArg some absent.symm
  | some given =>
      have covered : 16 ≤ given.structSize.toNat :=
        Nat.le_of_not_lt fun small => sized ⟨given, rfl, small⟩
      have path : (givenOptions (some given)).socketPath =
          given.socketPath := if_pos covered
      simp only [storeSocketPath, SocketPathRefused, path]
      by_cases empty : given.socketPath = []
      · simp [empty, isEmptyString, absent]
      · have present : ¬isEmptyString given.socketPath = true := by
          rwa [isEmptyString_iff]
        simp [present, empty]

theorem storeLogPath_eq (clear : state.logPath = .empty) :
    storeLogPath opts state =
      if LogPathRefused opts then none
      else some
        { state with
          logPath := copyCstr sdkPathSize (givenOptions opts).logPath } := by
  have absent : { state with logPath := copyCstr sdkPathSize [] } =
      state := by
    rw [copyCstr_of_nil, ← clear]
  have noPath : ¬sdkPathSize ≤ ([] : CString).length := by decide
  cases opts with
  | none =>
      rw [if_neg (show ¬LogPathRefused none from noPath)]
      exact congrArg some absent.symm
  | some given =>
      have field : initOptionHasField (some given) logPathOffset 8 =
          decide (24 ≤ given.structSize.toNat) := rfl
      simp only [storeLogPath, LogPathRefused, givenOptions, field]
      by_cases covered : 24 ≤ given.structSize.toNat
      · by_cases empty : given.logPath = []
        · simp [covered, empty, isEmptyString, absent]
        · have present : isEmptyString given.logPath = false := by
            simpa [isEmptyString] using empty
          simp [covered, present]
      · simp [covered, absent]

theorem storeResponseTimeout_eq (clear : state.responseTimeoutMs = 0) :
    storeResponseTimeout opts state =
      { state with
        responseTimeoutMs := (givenOptions opts).responseTimeoutMs } := by
  have absent : { state with responseTimeoutMs := 0 } = state := by
    rw [← clear]
  cases opts with
  | none => exact absent.symm
  | some given =>
      have field : initOptionHasField (some given) responseTimeoutOffset 4 =
          decide (28 ≤ given.structSize.toNat) := rfl
      simp only [storeResponseTimeout, givenOptions, field]
      by_cases covered : 28 ≤ given.structSize.toNat
      · simp [covered]
      · simp [covered, absent]

/-- The check of the structure's size is the only one that comes before the
variables are cleared. -/
theorem init_outcome (state : SdkState) (opts : Option SdkInitOptions) :
    InitOutcome state opts (ubseSsuSdkInit state opts).1
      (ubseSsuSdkInit state opts).2 := by
  have behind : ¬SizeRefused opts →
      let result := storeOptions opts { state with lastError := .empty }
      InitOutcome state opts result.1 result.2 := by
    intro sized
    dsimp only [storeOptions]
    rw [storeSocketPath_eq sized rfl]
    by_cases socket : SocketPathRefused opts
    · rw [if_pos socket]
      exact .socketPath socket
    · rw [if_neg socket]
      dsimp only
      rw [storeLogPath_eq rfl]
      by_cases log : LogPathRefused opts
      · rw [if_pos log]
        exact .logPath socket log
      · rw [if_neg log]
        dsimp only
        rw [storeResponseTimeout_eq rfl]
        exact .stored socket log
  cases opts with
  | none =>
      apply behind
      rintro ⟨given, absent, _⟩
      cases absent
  | some given =>
      dsimp only [ubseSsuSdkInit]
      split
      · rename_i small
        exact .size rfl small
      · rename_i enough
        apply behind
        rintro ⟨other, same, small⟩
        cases same
        exact enough small

theorem setLastError_ne_nil {text : CString} (present : text ≠ []) :
    (state.setLastError text).lastError.chars ≠ [] := by
  intro empty
  rcases List.take_eq_nil_iff.mp empty with zero | none
  · cases zero
  · exact present none

theorem structSizeText_ne_nil (structSize : UInt64) :
    structSizeText structSize ≠ [] := by
  unfold structSizeText
  intro empty
  exact decimal_ne_nil _ (List.append_eq_nil_iff.mp empty).2

/-- `ubse_ssu_sdk_last_error` has a text after a refused call only. -/
theorem init_lastError_iff :
    (ubseSsuSdkInit state opts).2.lastError.chars = [] ↔
      (ubseSsuSdkInit state opts).1 = .ok := by
  have outcome := init_outcome state opts
  generalize ubseSsuSdkInit state opts = result at outcome
  obtain ⟨err, after⟩ := result
  dsimp only at outcome
  cases outcome with
  | @size given present small =>
      simp only [setLastError_ne_nil (structSizeText_ne_nil given.structSize),
        reduceCtorEq]
  | socketPath | logPath => simp [setLastError_ne_nil]
  | stored => simp

/-- A refused path finds in the variables what the call leaves there. -/
structure NothingToLose (state : SdkState) (opts : Option SdkInitOptions) :
    Prop where
  socketPath : SocketPathRefused opts → state.options = .none
  logPath : ¬SocketPathRefused opts → LogPathRefused opts →
    state.options =
      { SdkOptions.none with socketPath := (givenOptions opts).socketPath }

/-- The structure is then too short for both paths. -/
theorem SizeRefused.noPaths (refused : SizeRefused opts) :
    ¬SocketPathRefused opts ∧ ¬LogPathRefused opts := by
  obtain ⟨given, rfl, small⟩ := refused
  have short : given.structSize.toNat < 16 := small
  have socket : (givenOptions (some given)).socketPath = [] :=
    if_neg (by omega)
  have log : (givenOptions (some given)).logPath = [] := if_neg (by omega)
  constructor
  · rintro ⟨present, _⟩
    exact present socket
  · unfold LogPathRefused
    rw [log]
    decide

/-- A path that is not refused is stored whole. -/
theorem stored_socketPath (valid : ¬SocketPathRefused opts) :
    (copyCstr sdkPathSize (givenOptions opts).socketPath).chars =
      (givenOptions opts).socketPath := by
  apply copyCstr_chars_of_fits
  by_cases empty : (givenOptions opts).socketPath = []
  · simp [empty]
  · have short : ¬sdkPathSize ≤ (givenOptions opts).socketPath.length :=
      fun long => valid ⟨empty, .inr long⟩
    omega

theorem stored_logPath (valid : ¬LogPathRefused opts) :
    (copyCstr sdkPathSize (givenOptions opts).logPath).chars =
      (givenOptions opts).logPath := by
  apply copyCstr_chars_of_fits
  have short : (givenOptions opts).logPath.length < sdkPathSize :=
    Nat.lt_of_not_le valid
  omega

theorem init_ok (accepted : (ubseSsuSdkInit state opts).1 = .ok) :
    (ubseSsuSdkInit state opts).2.options = givenOptions opts ∧
      (ubseSsuSdkInit state opts).2.initialized = true ∧
      NothingToLose state opts := by
  have outcome := init_outcome state opts
  generalize ubseSsuSdkInit state opts = result at outcome accepted
  obtain ⟨err, after⟩ := result
  dsimp only at outcome accepted
  subst accepted
  cases outcome with
  | stored socket log =>
      refine ⟨?_, rfl, fun refused => (socket refused).elim,
        fun _ refused => (log refused).elim⟩
      simp only [SdkState.options, stored_socketPath socket,
        stored_logPath log]

theorem init_refused (refused : (ubseSsuSdkInit state opts).1 ≠ .ok) :
    (ubseSsuSdkInit state opts).2.initialized = state.initialized ∧
      ((ubseSsuSdkInit state opts).2.options = state.options ↔
        NothingToLose state opts) := by
  have outcome := init_outcome state opts
  generalize ubseSsuSdkInit state opts = result at outcome refused
  obtain ⟨err, after⟩ := result
  dsimp only at outcome refused
  cases outcome with
  | @size given present small =>
      have short : SizeRefused opts := ⟨given, present, small⟩
      obtain ⟨socket, log⟩ := short.noPaths
      exact ⟨rfl, fun _ => ⟨fun path => (socket path).elim,
        fun _ path => (log path).elim⟩, fun _ => rfl⟩
  | socketPath path =>
      refine ⟨rfl, ?_⟩
      constructor
      · intro same
        exact ⟨fun _ => same.symm, fun valid => (valid path).elim⟩
      · intro nothing
        exact (nothing.socketPath path).symm
  | logPath valid path =>
      have left : SdkState.options
          ({ state.cleared with
              socketPath := copyCstr sdkPathSize
                (givenOptions opts).socketPath }.setLastError
            "invalid log path: too long".toList) =
          { SdkOptions.none with
            socketPath := (givenOptions opts).socketPath } := by
        simp only [SdkState.options, SdkState.setLastError,
          stored_socketPath valid]
        rfl
      refine ⟨rfl, ?_⟩
      rw [left]
      constructor
      · intro same
        exact ⟨fun socket => (valid socket).elim, fun _ _ => same.symm⟩
      · intro nothing
        exact (nothing.logPath valid path).symm
  | stored => exact (refused rfl).elim

/-- An error leaves what later calls use as it was; success leaves the
options of the call, and the default where there is none. -/
structure InitAllOrNothing (state : SdkState) (opts : Option SdkInitOptions) :
    Prop where
  unchanged : (ubseSsuSdkInit state opts).1 ≠ .ok → ∀ env,
    (ubseSsuSdkInit state opts).2.settings env = state.settings env
  taken : (ubseSsuSdkInit state opts).1 = .ok → ∀ env,
    (ubseSsuSdkInit state opts).2.settings env =
      (givenOptions opts).settings env

theorem init_all_or_nothing_iff (state : SdkState)
    (opts : Option SdkInitOptions) :
    InitAllOrNothing state opts ↔ NothingToLose state opts := by
  constructor
  · intro whole
    by_cases accepted : (ubseSsuSdkInit state opts).1 = .ok
    · exact (init_ok accepted).2.2
    · have same := settings_eq_iff.mp (whole.unchanged accepted)
      exact (init_refused accepted).2.mp same.1
  · intro nothing
    constructor
    · intro refused
      obtain ⟨flag, kept⟩ := init_refused refused
      exact settings_eq_iff.mpr ⟨kept.mpr nothing, flag⟩
    · intro accepted env
      obtain ⟨taken, flag, _⟩ := init_ok accepted
      rw [← taken]
      simp only [SdkState.settings, SdkOptions.settings, flag]
      rfl

def workingOptions : SdkInitOptions :=
  { structSize := 32
    socketPath := "/run/manager.fifo".toList
    logPath := []
    responseTimeoutMs := 0 }

def spacedOptions : SdkInitOptions :=
  { workingOptions with socketPath := "/run/other manager.fifo".toList }

/-- A working client that is given a path with a blank talks to the default
manager from then on. -/
theorem refused_init_redirects :
    let working := (ubseSsuSdkInit .initial (some workingOptions)).2
    let result := ubseSsuSdkInit working (some spacedOptions)
    ¬InitAllOrNothing working (some spacedOptions) ∧
      working.initialized = true ∧ result.1 = .invalid ∧
      result.2.initialized = true ∧
      activeSocketPath ⟨[], [], []⟩ working = "/run/manager.fifo".toList ∧
      activeSocketPath ⟨[], [], []⟩ result.2 =
        "/tmp/ubse-ssu-mgr.fifo".toList := by
  intro working result
  have refused : result.1 = .invalid := by decide +kernel
  have before : activeSocketPath ⟨[], [], []⟩ working =
      "/run/manager.fifo".toList := by decide +kernel
  have after : activeSocketPath ⟨[], [], []⟩ result.2 =
      "/tmp/ubse-ssu-mgr.fifo".toList := by decide +kernel
  refine ⟨fun whole => ?_, by decide +kernel, refused, by decide +kernel,
    before, after⟩
  have failed : result.1 ≠ .ok := by
    rw [refused]
    decide
  have same := congrArg SdkSettings.socketPath
    (whole.unchanged failed ⟨[], [], []⟩)
  have paths := after.symm.trans (same.trans before)
  revert paths
  decide

end Init

section Requests

variable {state : SdkState} {opts : Option SdkInitOptions}

theorem ensureInitialized_of_off (off : state.initialized = false) :
    (ensureInitialized state).2.options = .none ∧
      (ensureInitialized state).2.initialized = true := by
  simp [ensureInitialized, off, ubseSsuSdkInit, storeOptions, storeSocketPath,
    storeLogPath, storeResponseTimeout, SdkState.options, SdkState.cleared,
    SdkOptions.none]

/-- What a refused call leaves behind does not reach the requests of a client
that is not initialised: the first of them clears it. -/
theorem refused_init_request (off : state.initialized = false)
    (refused : (ubseSsuSdkInit state opts).1 ≠ .ok) (env : SdkEnvironment) :
    (ensureInitialized (ubseSsuSdkInit state opts).2).2.settings env =
      (ensureInitialized state).2.settings env := by
  have stillOff := (init_refused refused).1.trans off
  obtain ⟨before, on⟩ := ensureInitialized_of_off off
  obtain ⟨after, stillOn⟩ := ensureInitialized_of_off stillOff
  exact settings_eq_iff.mpr
    ⟨after.trans before.symm, stillOn.trans on.symm⟩ env

end Requests

section Client

/-- `request` is a call that starts with `ensure_initialized`. -/
inductive SdkCall where
  | init (opts : Option SdkInitOptions)
  | fini
  | request

def applyCall (state : SdkState) : SdkCall → SsuErr × SdkState
  | .init opts => ubseSsuSdkInit state opts
  | .fini => (.ok, ubseSsuSdkFini state)
  | .request => ensureInitialized state

/-- A client whose `init` is atomic: not initialised, or with the options of
the last accepted call. -/
abbrev AtomicClient := Option SdkOptions

def AtomicClient.next (client : AtomicClient) (err : SsuErr) :
    SdkCall → AtomicClient
  | .init opts => if err = .ok then some (givenOptions opts) else client
  | .fini => none
  | .request => some (client.getD .none)

/-- Both levels side by side, one call after the other. -/
def bothLevels (levels : AtomicClient × SdkState) (call : SdkCall) :
    AtomicClient × SdkState :=
  let result := applyCall levels.2 call
  (levels.1.next result.1 call, result.2)

structure Represents (levels : AtomicClient × SdkState) : Prop where
  flag : levels.2.initialized = levels.1.isSome
  options : levels.2.options = levels.1.getD .none

def CallLosesNothing (levels : AtomicClient × SdkState) : SdkCall → Prop
  | .init opts => NothingToLose levels.2 opts
  | _ => True

theorem bothLevels_represents_iff (levels : AtomicClient × SdkState)
    (call : SdkCall) (holds : Represents levels) :
    CallLosesNothing levels call ↔ Represents (bothLevels levels call) := by
  obtain ⟨client, state⟩ := levels
  obtain ⟨flag, options⟩ := holds
  dsimp only at flag options
  cases call with
  | init opts =>
      by_cases accepted : (ubseSsuSdkInit state opts).1 = .ok
      · obtain ⟨taken, set, nothing⟩ := init_ok accepted
        refine ⟨fun _ => ?_, fun _ => nothing⟩
        constructor
        · simpa [bothLevels, applyCall, AtomicClient.next, accepted] using set
        · simpa [bothLevels, applyCall, AtomicClient.next, accepted]
            using taken
      · obtain ⟨same, kept⟩ := init_refused accepted
        have next : bothLevels (client, state) (.init opts) =
            (client, (ubseSsuSdkInit state opts).2) := by
          simp [bothLevels, applyCall, AtomicClient.next, accepted]
        rw [next]
        constructor
        · intro nothing
          exact ⟨same.trans flag, (kept.mpr nothing).trans options⟩
        · intro represents
          exact kept.mp (represents.options.trans options.symm)
  | fini => exact ⟨fun _ => ⟨rfl, rfl⟩, fun _ => trivial⟩
  | request =>
      refine ⟨fun _ => ?_, fun _ => trivial⟩
      cases client with
      | none =>
          obtain ⟨options, on⟩ := ensureInitialized_of_off flag
          exact ⟨on, options⟩
      | some held =>
          have on : state.initialized = true := flag
          constructor
          · simp [bothLevels, applyCall, AtomicClient.next, ensureInitialized,
              on]
          · simpa [bothLevels, applyCall, AtomicClient.next,
              ensureInitialized, on] using options

/-- The variables follow the atomic client throughout a run just when every
`init` of the run with a refused path finds in them what it leaves there. -/
theorem client_atomic_iff (calls : List SdkCall) :
    (∀ done later, calls = done ++ later →
      Represents (Transition.run bothLevels (none, .initial) done)) ↔
      Transition.Admissible bothLevels CallLosesNothing (none, .initial)
        calls :=
  Transition.invariant_throughout_iff Represents bothLevels_represents_iff
    ⟨rfl, rfl⟩ calls

end Client

end UbseSsu.Sdk
