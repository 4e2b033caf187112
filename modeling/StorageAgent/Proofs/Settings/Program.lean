import StorageAgent.Proofs.Encoding.Base58
import StorageAgent.Settings.Load

/-!
# The configured program

Every field is read whatever becomes of the others, and a fault names the field that it is about.
The program that a loaded setting names is then the one whose text it is, but for the spacing around
it.

* `Text.trimSpacing_between`: what is trimmed is the spacing at both ends.
* `check_run`: the settings that are read and the faults that are collected.
* `field_mem_names`: a fault of a field has one of its names.
* `load_program`: which settings of the program are accepted, and what they are read as.
-/
namespace StorageAgent

/-! ## Trimmed texts -/

namespace Text

variable {drop : Char → Bool} {before core after : List Char}

theorem dropWhile_append_kept (hbefore : ∀ c ∈ before, drop c = true)
    (hcore : ∀ c ∈ core, drop c = false) (hne : core ≠ []) :
    (before ++ (core ++ after)).dropWhile drop = core ++ after := by
  rw [List.dropWhile_append_of_pos hbefore]
  cases core with
  | nil => exact absurd rfl hne
  | cons c core =>
    rw [List.cons_append, List.dropWhile_cons_of_neg]
    rw [hcore c (List.mem_cons_self ..)]
    exact Bool.false_ne_true

theorem trimBy_between (hbefore : ∀ c ∈ before, drop c = true) (hcore : ∀ c ∈ core, drop c = false)
    (hafter : ∀ c ∈ after, drop c = true) : trimBy drop (before ++ (core ++ after)) = core := by
  by_cases hne : core = []
  · have hall : (before ++ after).dropWhile drop = [] :=
      List.dropWhile_eq_nil_iff.2 fun c hc => (List.mem_append.1 hc).elim (hbefore c) (hafter c)
    rw [hne, List.nil_append, trimBy, hall]
    rfl
  · have hend : (after.reverse ++ (core.reverse ++ [])).dropWhile drop = core.reverse ++ [] :=
      dropWhile_append_kept (fun c hc => hafter c (List.mem_reverse.1 hc))
        (fun c hc => hcore c (List.mem_reverse.1 hc)) (by simpa using hne)
    rw [List.append_nil] at hend
    rw [trimBy, dropWhile_append_kept hbefore hcore hne, List.reverse_append, hend,
      List.reverse_reverse]

end Text

namespace Settings

/-! ## One field -/

variable {α : Type} {s : Sources} {names : List String} {default : α}
  {read : Argument → Except FieldFault α}

/-- What a field is taken for. -/
def Sources.value (s : Sources) (names : List String) (default : α)
    (read : Argument → Except FieldFault α) : α :=
  match s.find names with
  | none => default
  | some (_, a) => (read a).toOption.getD default

/-- What is wrong with a field. -/
def Sources.faults (s : Sources) (names : List String) (read : Argument → Except FieldFault α) :
    List Fault :=
  match s.find names with
  | none => []
  | some (name, a) =>
    match read a with
    | .ok _ => []
    | .error cause => [⟨name, cause⟩]

theorem field_eq : s.field names default read = fun faults =>
    (s.value names default read, faults ++ s.faults names read) := by
  funext faults
  unfold Sources.field Sources.value Sources.faults
  cases s.find names with
  | none =>
    rw [List.append_nil]
    rfl
  | some found =>
    obtain ⟨name, a⟩ := found
    dsimp only
    cases read a with
    | ok value =>
      rw [List.append_nil]
      rfl
    | error cause => rfl

theorem find_mem_names {name : String} {a : Argument} (hne : names ≠ [])
    (h : s.find names = some (name, a)) : name ∈ names := by
  have hown : names.headD "" ∈ names := by
    cases names with
    | nil => exact absurd rfl hne
    | cons own names => exact List.mem_cons_self ..
  unfold Sources.find at h
  split at h
  · next found hfound =>
    cases h
    obtain ⟨own, hmem, hlookup⟩ := List.exists_of_findSome?_eq_some hfound
    obtain ⟨_, -, hpair⟩ := Option.map_eq_some_iff.1 hlookup
    cases hpair
    exact hmem
  · split at h
    · cases h
      exact hown
    · obtain ⟨_, -, hpair⟩ := Option.map_eq_some_iff.1 h
      cases hpair
      exact hown

/-- A fault has a name of the field that it is about. -/
theorem field_mem_names {f : Fault} (hne : names ≠ []) (h : f ∈ s.faults names read) :
    f.field ∈ names := by
  unfold Sources.faults at h
  split at h
  · cases h
  · next name a hfound =>
    split at h
    · cases h
    · rw [List.mem_singleton.1 h]
      exact find_mem_names hne hfound

/-! ## All fields -/

/-- The settings that are read, with the default for each field that is refused. -/
def Sources.settings (s : Sources) : Settings where
  logLevel := s.value ["log_level"] "INFO" readText
  rpcUrl := s.value ["rpc_url", "bitoku_rpc_url", "SOLANA_RPC_URL"] "https://api.devnet.solana.com"
    readText
  commitment := s.value ["commitment"] .confirmed commitmentOf
  rpcTimeout := s.value ["rpc_timeout_seconds"] 30.0 positive
  rpcMaxRetries := s.value ["rpc_max_retries"] 3 (integerWithin 1 none)
  rpcRetryDelay := s.value ["rpc_retry_delay_seconds"] 0.5 nonNegative
  program := s.value ["program_id", "bitoku_program_id"] defaultProgram programOf
  keypairPath := s.value ["keypair_path"] defaultKeypair pathOf
  unitLimit := s.value ["compute_unit_limit"] (Envelope.defaultUnitLimit : Int)
    (integerWithin 1 (some unitLimitCeiling))
  confirmTimeout := s.value ["confirm_timeout_seconds"] 60.0 positive
  pollInterval := s.value ["poll_interval_seconds"] 1.0 positive
  maxStaleRetries := s.value ["max_stale_retries"] 3 (integerWithin 0 none)

/-- What is wrong with the fields before the program. -/
def Sources.faultsBefore (s : Sources) : List Fault :=
  s.faults ["log_level"] readText ++
    s.faults ["rpc_url", "bitoku_rpc_url", "SOLANA_RPC_URL"] readText ++
    s.faults ["commitment"] commitmentOf ++ s.faults ["rpc_timeout_seconds"] positive ++
    s.faults ["rpc_max_retries"] (integerWithin 1 none) ++
    s.faults ["rpc_retry_delay_seconds"] nonNegative

/-- What is wrong with the fields after the program. -/
def Sources.faultsAfter (s : Sources) : List Fault :=
  s.faults ["keypair_path"] pathOf ++
    s.faults ["compute_unit_limit"] (integerWithin 1 (some unitLimitCeiling)) ++
    s.faults ["confirm_timeout_seconds"] positive ++ s.faults ["poll_interval_seconds"] positive ++
    s.faults ["max_stale_retries"] (integerWithin 0 none)

/-- The names of the program. -/
def programNames : List String := ["program_id", "bitoku_program_id"]

theorem check_run : (check s).run [] =
    (s.settings, s.faultsBefore ++ (s.faults programNames programOf ++ s.faultsAfter)) := by
  unfold check
  simp only [field_eq]
  simp only [bind, StateT.bind, StateT.run, pure, Sources.faultsBefore,
    Sources.faultsAfter, List.nil_append, List.append_assoc]
  rfl

/-- What is wrong with all fields, in their order. -/
def Sources.allFaults (s : Sources) : List Fault :=
  s.faultsBefore ++ (s.faults programNames programOf ++ s.faultsAfter)

/-- Sources load if nothing is wrong with a field and the keypair path can be expanded. -/
theorem load_eq_ok_iff {homes : Homes} {settings : Settings} : load homes s = .ok settings ↔
    s.allFaults = [] ∧ ∃ path, s.settings.keypairPath.expand homes = .ok path ∧
      { s.settings with keypairPath := path } = settings := by
  rw [load, check_run, ← Sources.allFaults]
  cases s.allFaults with
  | nil =>
    dsimp only
    cases s.settings.keypairPath.expand homes with
    | ok path => simp
    | error failure => simp
  | cons f faults => simp

/-- Loading refuses the value of a field. -/
def Refuses (homes : Homes) (s : Sources) (field : String) : Prop :=
  ∃ faults, load homes s = .error (.invalid faults) ∧ ∃ f ∈ faults, f.field = field

theorem refuses_iff {homes : Homes} {field : String} :
    Refuses homes s field ↔ ∃ f ∈ s.allFaults, f.field = field := by
  rw [Refuses, load, check_run, ← Sources.allFaults]
  cases s.allFaults with
  | nil =>
    dsimp only
    cases s.settings.keypairPath.expand homes with
    | ok path => simp
    | error failure => simp
  | cons f faults => simp

/-- A fault of another field does not have a name of the program. -/
theorem field_not_program {f : Fault} (h : f ∈ s.faultsBefore ∨ f ∈ s.faultsAfter) :
    f.field ∉ programNames := by
  have hother : ∀ {α : Type} {names : List String} {read : Argument → Except FieldFault α},
      f ∈ s.faults names read → names ≠ [] → (∀ name ∈ names, name ∉ programNames) →
        f.field ∉ programNames := fun hf hne hapart => hapart _ (field_mem_names hne hf)
  simp only [Sources.faultsBefore, Sources.faultsAfter, List.mem_append] at h
  rcases h with (((((h | h) | h) | h) | h) | h) | (((h | h) | h) | h) | h <;>
    exact hother h (by decide) (by decide)

theorem refuses_program_iff {homes : Homes} : Refuses homes s "program_id" ↔
    ∃ f ∈ s.faults programNames programOf, f.field = "program_id" := by
  rw [refuses_iff]
  constructor
  · rintro ⟨f, hf, hfield⟩
    have hname : f.field ∈ programNames := by simp [hfield, programNames]
    rcases List.mem_append.1 hf with hbefore | hf
    · exact absurd hname (field_not_program (.inl hbefore))
    · rcases List.mem_append.1 hf with hprogram | hafter
      · exact ⟨f, hprogram, hfield⟩
      · exact absurd hname (field_not_program (.inr hafter))
  · rintro ⟨f, hf, hfield⟩
    exact ⟨f, List.mem_append_right _ (List.mem_append_left _ hf), hfield⟩

/-! ## The program given as a text -/

/-- The same sources, where the program is given as a text. -/
def Sources.withProgram (s : Sources) (text : String) : Sources :=
  { s with given := ("program_id", .text text) :: s.given }

variable {text : String} {a : Address}

theorem find_program :
    (s.withProgram text).find programNames = some ("program_id", .text text) := by
  have hlookup : givenAnyCase programNames (s.withProgram text).given =
      some ("program_id", .text text) := by
    simp [givenAnyCase, programNames, Sources.withProgram]
  rw [Sources.find, hlookup]

/-- The other fields are found where they were. -/
theorem find_other (hother : ∀ name ∈ names, Text.lower name ≠ Text.lower "program_id") :
    (s.withProgram text).find names = s.find names := by
  have hgiven : givenAnyCase names (s.withProgram text).given = givenAnyCase names s.given := by
    simp only [givenAnyCase, Sources.withProgram, List.map_cons]
    induction names with
    | nil => rfl
    | cons name names ih =>
      obtain ⟨hname, hnames⟩ := List.forall_mem_cons.1 hother
      have hne : (Text.lower name == Text.lower "program_id") = false := by simpa using hname
      rw [List.findSome?_cons, List.findSome?_cons, List.lookup_cons, hne]
      dsimp only
      rw [ih hnames]
  rw [Sources.find, hgiven]
  rfl

theorem value_other (hother : ∀ name ∈ names, Text.lower name ≠ Text.lower "program_id") :
    (s.withProgram text).value names default read = s.value names default read := by
  rw [Sources.value, find_other hother, Sources.value]

theorem faults_other (hother : ∀ name ∈ names, Text.lower name ≠ Text.lower "program_id") :
    (s.withProgram text).faults names read = s.faults names read := by
  rw [Sources.faults, find_other hother, Sources.faults]

theorem programOf_eq_ok_iff :
    programOf (.text text) = .ok a ↔ Base58.Spells (Text.trimSpacing text) a.bytes := by
  rw [← Address.parse_eq_ok_iff]
  cases hparse : Address.parse (Text.trimSpacing text) with
  | ok address => simp [programOf, readText, hparse, bind, Except.bind, pure, Except.pure]
  | error fault => simp [programOf, readText, hparse, bind, Except.bind, throw, throwThe,
      MonadExceptOf.throw]

theorem value_program (h : Base58.Spells (Text.trimSpacing text) a.bytes) :
    (s.withProgram text).value programNames defaultProgram programOf = a := by
  rw [Sources.value, find_program]
  dsimp only
  rw [programOf_eq_ok_iff.2 h]
  rfl

theorem faults_program (h : Base58.Spells (Text.trimSpacing text) a.bytes) :
    (s.withProgram text).faults programNames programOf = [] := by
  rw [Sources.faults, find_program]
  dsimp only
  rw [programOf_eq_ok_iff.2 h]

theorem accepts_program_iff {homes : Homes} : ¬ Refuses homes (s.withProgram text) "program_id" ↔
    ∃ a : Address, Base58.Spells (Text.trimSpacing text) a.bytes := by
  rw [refuses_program_iff]
  constructor
  · intro haccepted
    cases hread : programOf (.text text) with
    | ok a => exact ⟨a, programOf_eq_ok_iff.1 hread⟩
    | error cause =>
      have hfault : ⟨"program_id", cause⟩ ∈ (s.withProgram text).faults programNames programOf := by
        rw [Sources.faults, find_program]
        dsimp only
        rw [hread]
        exact List.mem_singleton_self _
      exact absurd ⟨_, hfault, rfl⟩ haccepted
  · rintro ⟨a, ha⟩ ⟨f, hf, -⟩
    rw [faults_program ha] at hf
    cases hf

theorem settings_withProgram (h : Base58.Spells (Text.trimSpacing text) a.bytes) :
    (s.withProgram text).settings = { s.settings with program := a } := by
  rw [← value_program (s := s) h]
  simp (disch := decide) only [Sources.settings, value_other]
  rfl

theorem allFaults_withProgram (h : Base58.Spells (Text.trimSpacing text) a.bytes) :
    (s.withProgram text).allFaults = s.faultsBefore ++ s.faultsAfter := by
  rw [Sources.allFaults, faults_program h]
  simp (disch := decide) only [Sources.faultsBefore, Sources.faultsAfter, faults_other,
    List.nil_append]

theorem loaded_program {homes : Homes} {settings : Settings}
    (h : load homes (s.withProgram text) = .ok settings) :
    Base58.Spells (Text.trimSpacing text) settings.program.bytes := by
  have haccepted : ¬ Refuses homes (s.withProgram text) "program_id" := by
    rintro ⟨faults, hfaults, -⟩
    rw [h] at hfaults
    cases hfaults
  obtain ⟨a, ha⟩ := accepts_program_iff.1 haccepted
  obtain ⟨-, path, -, rfl⟩ := load_eq_ok_iff.1 h
  rw [settings_withProgram ha]
  exact ha

/-- The text of an address is what is left when spacing is put around it and trimmed again. -/
theorem trimSpacing_between {before after : List Char}
    (hbefore : ∀ c ∈ before, Text.isSpacing c = true)
    (hafter : ∀ c ∈ after, Text.isSpacing c = true)
    (htext : text.toList = before ++ (a.text.toList ++ after)) :
    Text.trimSpacing text = a.text := by
  obtain ⟨values, hvalues, hdigits, -, -⟩ := (Address.spells_iff (a := a)).2 rfl
  have hspacing : ∀ v : Fin 58, Text.isSpacing (Base58.digit v) = false := by decide
  have hcore : ∀ c ∈ a.text.toList, Text.isSpacing c = false := by
    intro c hc
    rw [hdigits] at hc
    obtain ⟨v, hv, rfl⟩ := List.mem_map.1 hc
    exact hspacing ⟨v, hvalues v hv⟩
  rw [Text.trimSpacing, htext, Text.trimBy_between hbefore hcore hafter, String.ofList_toList]

/-- The program that is given as a text is accepted if the text, without the spacing around it, is
the base58 form of 32 bytes. It is then kept as that text: the settings name the address that the
text spells, and nothing else about them changes. -/
theorem load_program (homes : Homes) (s : Sources) (text : String) :
    (¬ Refuses homes (s.withProgram text) "program_id" ↔
      ∃ a : Address, Base58.Spells (Text.trimSpacing text) a.bytes) ∧
    (∀ settings, load homes (s.withProgram text) = .ok settings →
      settings.program.text = Text.trimSpacing text) ∧
    (∀ (a : Address) (before after : List Char), (∀ c ∈ before, Text.isSpacing c = true) →
      (∀ c ∈ after, Text.isSpacing c = true) → text.toList = before ++ (a.text.toList ++ after) →
      ¬ Refuses homes (s.withProgram text) "program_id" ∧
        ∀ settings, load homes (s.withProgram text) = .ok settings →
          settings.program = a ∧ ∀ room key, (settings.client room key).program = a) ∧
    (∀ (settings : Settings) (a : Address), load homes s = .ok settings →
      Base58.Spells (Text.trimSpacing text) a.bytes →
      load homes (s.withProgram text) = .ok { settings with program := a }) := by
  refine ⟨accepts_program_iff, ?_, ?_, ?_⟩
  · intro settings hload
    exact (Address.spells_iff.1 (loaded_program hload)).symm
  · intro a before after hbefore hafter htext
    have hspells : Base58.Spells (Text.trimSpacing text) a.bytes :=
      Address.spells_iff.2 (trimSpacing_between hbefore hafter htext)
    refine ⟨accepts_program_iff.2 ⟨a, hspells⟩, fun settings hload => ?_⟩
    have hsame : settings.program = a := Address.spells_unique (loaded_program hload) hspells
    exact ⟨hsame, fun _ _ => hsame⟩
  · intro settings a hload hspells
    obtain ⟨hfaults, path, hpath, rfl⟩ := load_eq_ok_iff.1 hload
    obtain ⟨hbefore, hrest⟩ := List.append_eq_nil_iff.1 hfaults
    refine load_eq_ok_iff.2 ⟨?_, path, ?_, ?_⟩
    · rw [allFaults_withProgram hspells, hbefore, (List.append_eq_nil_iff.1 hrest).2]
      rfl
    · rw [settings_withProgram hspells]
      exact hpath
    · rw [settings_withProgram hspells]

/-- A program between spacing is the program that is loaded. A text of 31 bytes is refused. -/
theorem load_program_spaced :
    (∃ settings, load ⟨"/home/agent", fun _ => none⟩
        (Sources.withProgram ⟨[], [], []⟩ "\tComputeBudget111111111111111111111111111111 \n") =
          .ok settings ∧ settings.program = Address.computeBudgetProgram) ∧
      Refuses ⟨"/home/agent", fun _ => none⟩
        (Sources.withProgram ⟨[], [], []⟩ "1111111111111111111111111111111") "program_id" := by
  have hdefaults : ∃ settings, load ⟨"/home/agent", fun _ => none⟩ ⟨[], [], []⟩ = .ok settings :=
    ⟨_, load_eq_ok_iff.2 ⟨rfl, ⟨"/", ["home", "agent", ".config", "solana", "id.json"]⟩, rfl, rfl⟩⟩
  have hspells : Base58.Spells
      (Text.trimSpacing "\tComputeBudget111111111111111111111111111111 \n")
      Address.computeBudgetProgram.bytes := Address.spells_iff.2 (by decide)
  obtain ⟨settings, hload⟩ := hdefaults
  constructor
  · exact ⟨_, (load_program _ _ _).2.2.2 settings _ hload hspells, rfl⟩
  · by_contra haccepted
    obtain ⟨a, ha⟩ := (load_program _ _ _).1.1 haccepted
    have hparse : Address.parse (Text.trimSpacing "1111111111111111111111111111111") =
        .error .wrongSize := by decide
    rw [Address.parse_eq_ok_iff.2 ha] at hparse
    cases hparse

end Settings
end StorageAgent
