import StorageAgent.Proofs.Envelope.Assembled
import StorageAgent.Proofs.Json.Limits
import StorageAgent.Proofs.Json.Written
import StorageAgent.Proofs.Text.Utf8

/-!
# Keypair files

A keypair file holds the 64 bytes of a secret key as a JSON array of numbers. The law of such files
is that those, and no others, give a key, the one that their seed gives, and that every other file
is refused as unfit for signing.

The law fails in three ways. A truth value counts as the number 0 or 1. A content that is not UTF-8,
or that stops the reader at one of its limits, ends in a fault that is no client error. So does a
path that cannot be looked up, or that leads through a file.

* `ofContent_eq_ok_iff`: which contents give a key.
* `ofContent_error_cases`: how the others end.
* `ofFile_lawful_iff`: the law holds of a file exactly if none of the three is the case, and so of
  every text within the limits that says neither true nor false.
* `ofContent_written`: the array of a key's bytes, as it is written, gives the key.
-/
namespace StorageAgent.Key

open Json (IsArray Plain)

variable {nesting : Nat} {homes : Homes} {files : Path → FileEntry} {path : Path} {key : Key}
  {content secret : Bytes} {items : List Json} {text : String}

/-! ## Bytes as items of an array -/

/-- The numbers of bytes. -/
def numbers (bytes : Bytes) : List Json := bytes.map fun b => .int b.toNat

/-- What counts as a byte: its number, and a truth value as 0 or 1. -/
inductive Counts : Json → UInt8 → Prop where
  | number (b : UInt8) : Counts (.int b.toNat) b
  | no : Counts (.bool false) 0
  | yes : Counts (.bool true) 1

/-- Items that count as these bytes. -/
inductive CountAs : List Json → Bytes → Prop where
  | nil : CountAs [] []
  | cons {v : Json} {b : UInt8} {items : List Json} {bytes : Bytes} (h : Counts v b)
      (hrest : CountAs items bytes) : CountAs (v :: items) (b :: bytes)

theorem byteOf?_eq_some_iff {v : Json} {b : UInt8} : byteOf? v = some b ↔ Counts v b := by
  constructor
  · intro h
    unfold byteOf? at h
    split at h
    · next truth =>
      cases truth with
      | false =>
        cases h
        exact .no
      | true =>
        cases h
        exact .yes
    · next n =>
      split at h
      · next hn =>
        cases h
        have hbyte : ((UInt8.ofNat n.toNat).toNat : Int) = n := by
          rw [UInt8.toNat_ofNat']
          omega
        have hcounts := Counts.number (UInt8.ofNat n.toNat)
        rwa [hbyte] at hcounts
      · cases h
    · cases h
  · intro h
    cases h with
    | number =>
      have hlt := b.toNat_lt
      show (if 0 ≤ (b.toNat : Int) ∧ (b.toNat : Int) ≤ 255 then some (UInt8.ofNat b.toNat) else none)
        = some b
      rw [if_pos (by omega), UInt8.ofNat_toNat]
    | no => rfl
    | yes => rfl

theorem mapM_byteOf?_iff : items.mapM byteOf? = some secret ↔ CountAs items secret := by
  induction items generalizing secret with
  | nil =>
    constructor
    · intro h
      cases h
      exact .nil
    · intro h
      cases h
      rfl
  | cons v items ih =>
    rw [List.mapM_cons]
    constructor
    · intro h
      obtain ⟨b, hb, h⟩ := Option.bind_eq_some_iff.mp h
      obtain ⟨bytes, hbytes, h⟩ := Option.bind_eq_some_iff.mp h
      cases h
      exact .cons (byteOf?_eq_some_iff.mp hb) (ih.mp hbytes)
    · intro h
      cases h with
      | cons hv hrest =>
        rw [byteOf?_eq_some_iff.mpr hv, ih.mpr hrest]
        rfl

theorem CountAs.plain (h : CountAs items secret) : ∀ v ∈ items, Plain v := by
  induction h with
  | nil => exact fun _ hv => nomatch hv
  | @cons v b items bytes hcounts _ ih =>
    intro w hw
    rcases List.mem_cons.mp hw with rfl | hw
    · cases hcounts with
      | number =>
        have hsmall : b.toNat < 10 ^ 3 := Nat.lt_trans b.toNat_lt (by decide)
        exact .int (Nat.lt_of_lt_of_le hsmall (Nat.pow_le_pow_right (by decide) (by decide)))
      | no => exact .bool false
      | yes => exact .bool true
    · exact ih w hw

theorem countAs_numbers (bytes : Bytes) : CountAs (numbers bytes) bytes := by
  induction bytes with
  | nil => exact .nil
  | cons b bytes ih => exact .cons (.number b) ih

theorem CountAs.unique {bytes : Bytes} (h : CountAs items secret) (h' : CountAs items bytes) :
    secret = bytes :=
  Option.some.inj ((mapM_byteOf?_iff.mpr h).symm.trans (mapM_byteOf?_iff.mpr h'))

/-- Without truth values, the items are the numbers of the bytes. -/
theorem CountAs.eq_numbers (h : CountAs items secret) (htruth : ∀ b, .bool b ∉ items) :
    items = numbers secret := by
  induction h with
  | nil => rfl
  | cons hcounts _ ih =>
    have hrest := ih fun b hb => htruth b (List.mem_cons_of_mem _ hb)
    cases hcounts with
    | number =>
      rw [hrest]
      rfl
    | no => exact absurd List.mem_cons_self (htruth false)
    | yes => exact absurd List.mem_cons_self (htruth true)

theorem bool_not_mem_numbers (bytes : Bytes) (b : Bool) : .bool b ∉ numbers bytes := by
  intro h
  obtain ⟨byte, -, hbyte⟩ := List.mem_map.mp h
  cases hbyte

/-! ## Secret keys -/

/-- A seed and its public key. -/
structure IsPair (secret : Bytes) : Prop where
  size : secret.length = secretSize
  halves : secret.drop seedSize = Crypto.Ed25519.publicKey (secret.take seedSize)

theorem ofSeed_eq_ok_iff {seed : Bytes} : ofSeed seed = .ok key ↔ key.seed = seed := by
  unfold ofSeed
  constructor
  · intro h
    split at h
    · cases h
      rfl
    · cases h
  · rintro rfl
    rw [dif_pos key.size]
    congr 1
    obtain ⟨seed, hsize, address, rfl⟩ := key
    rfl

theorem address_bytes (key : Key) : key.address.bytes = Crypto.Ed25519.publicKey key.seed := by
  rw [key.address_eq]
  exact Address.bytes_ofStart (Bytes.length_ofNatLE ..)

theorem length_take_seed (h : IsPair secret) : (secret.take seedSize).length = seedSize := by
  rw [List.length_take, h.size]
  rfl

theorem exists_ofSeed (h : IsPair secret) : ∃ key, ofSeed (secret.take seedSize) = .ok key :=
  ⟨_, dif_pos (length_take_seed h)⟩

/-- A secret key gives the key of its seed. -/
theorem ofSecret_eq_ok_iff :
    ofSecret secret = .ok key ↔ IsPair secret ∧ ofSeed (secret.take seedSize) = .ok key := by
  unfold ofSecret
  by_cases hsize : secret.length = secretSize
  · rw [if_neg (not_not_intro hsize)]
    constructor
    · intro h
      obtain ⟨found, hfound, h⟩ := bind_eq_ok_iff.mp h
      have hseed : found.seed = secret.take seedSize := ofSeed_eq_ok_iff.mp hfound
      split at h
      · cases h
      · next hhalves =>
        cases h
        rw [address_bytes, hseed] at hhalves
        exact ⟨⟨hsize, (Decidable.not_not.mp hhalves).symm⟩, hfound⟩
    · rintro ⟨hpair, hkey⟩
      have hseed : key.seed = secret.take seedSize := ofSeed_eq_ok_iff.mp hkey
      have hhalves : key.address.bytes = secret.drop seedSize := by
        rw [address_bytes, hseed, hpair.halves]
      refine bind_eq_ok_iff.mpr ⟨key, hkey, ?_⟩
      rw [if_neg (not_not_intro hhalves)]
      rfl
  · rw [if_pos hsize]
    constructor
    · intro h
      cases h
    · rintro ⟨hpair, -⟩
      exact absurd hpair.size hsize

/-! ## Contents -/

theorem decode?_encode (text : String) : Text.Utf8.decode? (Text.Utf8.encode text) = some text :=
  Text.Utf8.decode?_eq_some_iff.mpr rfl

/-- A text that begins with a byte order mark is malformed. -/
theorem parse_of_mark (h : text.startsWith "\ufeff" = true) :
    Json.parse nesting text = .error .malformed := by
  obtain ⟨rest, hrest⟩ := String.startsWith_string_iff.mp h
  have hchars : text.toList = '\ufeff' :: rest := hrest.symm
  unfold Json.parse
  dsimp only
  rw [hchars, Json.skipGap_cons (by decide)]
  unfold Json.readValue
  rfl

/-- The content of a text, by what the reader says. -/
theorem ofContent_encode (nesting : Nat) (path : String) (text : String) :
    ofContent nesting path (Text.Utf8.encode text) =
      match Json.parse nesting text with
      | .error .malformed => .error (.client (.signing (.fileNotJson path)))
      | .error fault => .error (Failure.ofJsonFault fault)
      | .ok value =>
        match bytesOf? value with
        | none => .error (.client (.signing (.fileNotBytes path)))
        | some bytes => (ofSecret bytes).mapError fun fault => .client (.signing fault) := by
  unfold ofContent
  rw [decode?_encode]
  dsimp only
  split
  · next hmark => rw [parse_of_mark hmark]
  · rfl

/-- Why a content gives no key, if not for what it holds. -/
inductive Unread (nesting : Nat) (content : Bytes) : Failure → Prop where
  | undecodable (h : ∀ text, content ≠ Text.Utf8.encode text) :
      Unread nesting content (Failure.of .undecodable)
  | limit {text : String} {fault : Json.Fault} (htext : content = Text.Utf8.encode text)
      (h : Json.parse nesting text = .error fault) (hfault : fault ≠ .malformed) :
      Unread nesting content (Failure.ofJsonFault fault)

theorem Unread.not_client {e : Failure} (h : Unread nesting content e) :
    ∀ error, e ≠ .client error := by
  intro error
  cases h with
  | undecodable => exact nofun
  | @limit _ fault _ _ hfault => cases fault <;> exact nofun

theorem ofContent_of_unread {path : String} {e : Failure} (h : Unread nesting content e) :
    ofContent nesting path content = .error e := by
  cases h with
  | undecodable h =>
    cases hdecode : Text.Utf8.decode? content with
    | none =>
      unfold ofContent
      rw [hdecode]
    | some text => exact absurd (Text.Utf8.decode?_eq_some_iff.mp hdecode) (h text)
  | @limit text fault htext h hfault =>
    rw [htext, ofContent_encode, h]
    cases fault with
    | malformed => exact absurd rfl hfault
    | tooManyDigits => rfl
    | tooDeep => rfl

/-- What a content holds, if it is an array of what counts as the bytes of a secret key. -/
def Keeps (content : Bytes) (items : List Json) (secret : Bytes) : Prop :=
  ∃ text, content = Text.Utf8.encode text ∧ IsArray text items ∧ CountAs items secret ∧ IsPair secret

/-- A content that is read gives a key exactly if it keeps one. -/
theorem ofContent_eq_ok_iff {path : String} :
    ofContent nesting path content = .ok key ↔
      (∀ e, ¬ Unread nesting content e) ∧
        ∃ items secret, Keeps content items secret ∧ ofSeed (secret.take seedSize) = .ok key := by
  constructor
  · intro h
    refine ⟨fun e hunread => ?_, ?_⟩
    · rw [ofContent_of_unread hunread] at h
      cases h
    cases hdecode : Text.Utf8.decode? content with
    | none =>
      unfold ofContent at h
      rw [hdecode] at h
      cases h
    | some text =>
      obtain rfl := Text.Utf8.decode?_eq_some_iff.mp hdecode
      rw [ofContent_encode] at h
      split at h
      · cases h
      · cases h
      · next value hvalue =>
        split at h
        · cases h
        · next secret hsecret =>
          cases value with
          | list items =>
            have hcount : CountAs items secret := mapM_byteOf?_iff.mp hsecret
            have harray : IsArray text items :=
              Json.isArray_of_spelled (Json.parse_sound hvalue) hcount.plain
            cases hkey : ofSecret secret with
            | error fault =>
              rw [hkey] at h
              cases h
            | ok found =>
              rw [hkey] at h
              cases h
              obtain ⟨hpair, hseed⟩ := ofSecret_eq_ok_iff.mp hkey
              exact ⟨items, secret, ⟨text, rfl, harray, hcount, hpair⟩, hseed⟩
          | _ => cases hsecret
  · rintro ⟨hread, items, secret, ⟨text, rfl, harray, hcount, hpair⟩, hseed⟩
    have hbytes : bytesOf? (.list items) = some secret := mapM_byteOf?_iff.mpr hcount
    rw [ofContent_encode]
    obtain hparse | hdeep := harray.parse_cases hcount.plain nesting
    · rw [hparse]
      dsimp only
      rw [hbytes]
      dsimp only
      rw [ofSecret_eq_ok_iff.mpr ⟨hpair, hseed⟩]
      rfl
    · exact absurd (.limit rfl hdeep nofun) (hread _)

/-- A content is refused as unfit for signing, or it is not read. -/
theorem ofContent_error_cases {path : String} {e : Failure}
    (h : ofContent nesting path content = .error e) :
    (∃ fault, e = .client (.signing fault)) ∨ Unread nesting content e := by
  cases hdecode : Text.Utf8.decode? content with
  | none =>
    unfold ofContent at h
    rw [hdecode] at h
    cases h
    refine .inr (.undecodable fun text htext => ?_)
    rw [Text.Utf8.decode?_eq_some_iff.mpr htext] at hdecode
    cases hdecode
  | some text =>
    obtain rfl := Text.Utf8.decode?_eq_some_iff.mp hdecode
    rw [ofContent_encode] at h
    split at h
    · cases h
      exact .inl ⟨_, rfl⟩
    · next fault hmalformed hfault =>
      cases h
      exact .inr (.limit rfl hfault hmalformed)
    · split at h
      · cases h
        exact .inl ⟨_, rfl⟩
      · next secret _ =>
        cases hkey : ofSecret secret with
        | ok found =>
          rw [hkey] at h
          cases h
        | error fault =>
          rw [hkey] at h
          cases h
          exact .inl ⟨_, rfl⟩

/-! ## Files -/

theorem expand_error {e : Failure} (h : path.expand homes = .error e) : e = Failure.of .runtime := by
  unfold Path.expand at h
  split at h
  · cases h
  · split at h
    · split at h
      · cases h
      · split at h
        · cases h
          rfl
        · cases h
    · cases h

/-- What a path leads to. A path that cannot be looked up leads to nothing. -/
def entryAt (homes : Homes) (files : Path → FileEntry) (path : Path) : FileEntry :=
  match path.expand homes with
  | .error _ => .missing
  | .ok p => if p.text.toList.contains '\x00' then .missing else files p

/-- A path whose home is known and that has no NUL in it. -/
def Searchable (homes : Homes) (path : Path) : Prop :=
  ∃ p, path.expand homes = .ok p ∧ p.text.toList.contains '\x00' = false

theorem ofFile_of_not_searchable (h : ¬ Searchable homes path) :
    entryAt homes files path = .missing ∧
      ∃ e, ofFile nesting homes files path = .error e ∧ ∀ error, e ≠ .client error := by
  unfold entryAt ofFile
  cases hexpand : path.expand homes with
  | error e =>
    refine ⟨rfl, e, rfl, ?_⟩
    rw [expand_error hexpand]
    exact nofun
  | ok p =>
    cases hnul : p.text.toList.contains '\x00' with
    | false => exact absurd ⟨p, hexpand, hnul⟩ h
    | true =>
      dsimp only
      rw [if_pos hnul]
      refine ⟨rfl, Failure.of .badValue, ?_, nofun⟩
      dsimp only [bind, Except.bind]
      rw [if_pos hnul]
      rfl

/-- What becomes of what a path leads to. -/
def outcomeOf (nesting : Nat) (name : String) : FileEntry → Except Failure Key
  | .missing => .error (.client (.signing (.fileMissing name)))
  | .unreadable kind => .error (Failure.of kind)
  | .content content => ofContent nesting name content

theorem ofFile_of_searchable (h : Searchable homes path) :
    ∃ name, ofFile nesting homes files path = outcomeOf nesting name (entryAt homes files path) := by
  obtain ⟨p, hexpand, hnul⟩ := h
  refine ⟨p.text, ?_⟩
  unfold ofFile entryAt outcomeOf
  rw [hexpand]
  dsimp only [bind, Except.bind]
  rw [hnul, if_neg Bool.false_ne_true]
  rfl

/-! ## The law -/

/-- A file with the bytes of a secret key as an array of numbers. -/
def HoldsPair (entry : FileEntry) (secret : Bytes) : Prop :=
  ∃ text, entry = .content (Text.Utf8.encode text) ∧ IsArray text (numbers secret) ∧ IsPair secret

/-- The law of keypair files: the files of secret keys, and no others, give a key, which has the
address of the seed's key and signs as it does; and every other file, and a path where there is
none, is unfit for signing. It leaves open what becomes of a directory. -/
structure Lawful (entry : FileEntry) (outcome : Except Failure Key) : Prop where
  given : (∃ key, outcome = .ok key) ↔ ∃ secret, HoldsPair entry secret
  same : ∀ key secret, outcome = .ok key → HoldsPair entry secret →
    ∃ seedKey, ofSeed (secret.take seedSize) = .ok seedKey ∧ key.address = seedKey.address ∧
      ∀ message, key.sign message = seedKey.sign message
  refused : ∀ e, entry ≠ .unreadable .isDirectory → outcome = .error e →
    ∃ fault, e = .client (.signing fault)

/-- A content that is read to its end and has no truth values in the array of a secret key. -/
structure Regular (nesting : Nat) (content : Bytes) : Prop where
  read : ∀ e, ¬ Unread nesting content e
  numeric : ∀ text items secret, content = Text.Utf8.encode text → IsArray text items →
    CountAs items secret → IsPair secret → ∀ b, .bool b ∉ items

/-- A text is the array of one list of items, and these count as one string of bytes. -/
theorem secret_unique {bytes : Bytes} (harray : IsArray text items) (hcount : CountAs items bytes)
    (hnumbers : IsArray text (numbers secret)) : items = numbers secret ∧ bytes = secret := by
  have hparse : Json.parse 1 text = .ok (.list items) :=
    (Json.parse_list_iff hcount.plain).mpr harray
  rw [(Json.parse_list_iff (countAs_numbers secret).plain).mpr hnumbers] at hparse
  obtain rfl : numbers secret = items := by
    cases hparse
    rfl
  exact ⟨rfl, hcount.unique (countAs_numbers secret)⟩

theorem encode_inj {text text' : String} (h : Text.Utf8.encode text = Text.Utf8.encode text') :
    text = text' := by
  have hdecode := decode?_encode text
  rw [h, decode?_encode] at hdecode
  exact (Option.some.inj hdecode).symm

/-- The key of a secret key's file is the key of the seed. -/
theorem ofSeed_of_pair {name : String} (hkey : ofContent nesting name content = .ok key)
    (hpair : HoldsPair (.content content) secret) : ofSeed (secret.take seedSize) = .ok key := by
  obtain ⟨-, items, bytes, ⟨text, rfl, harray, hcount, -⟩, hseed⟩ := ofContent_eq_ok_iff.mp hkey
  obtain ⟨text', htext, hnumbers, -⟩ := hpair
  obtain rfl := encode_inj (FileEntry.content.inj htext)
  obtain ⟨-, rfl⟩ := secret_unique harray hcount hnumbers
  exact hseed

theorem exists_of_keeps {name : String} (hread : ∀ e, ¬ Unread nesting content e)
    (h : Keeps content items secret) : ∃ key, ofContent nesting name content = .ok key := by
  obtain ⟨text, htext, harray, hcount, hpair⟩ := h
  obtain ⟨key, hkey⟩ := exists_ofSeed hpair
  exact ⟨key, ofContent_eq_ok_iff.mpr
    ⟨hread, items, secret, ⟨text, htext, harray, hcount, hpair⟩, hkey⟩⟩

theorem Regular.lawful {name : String} (h : Regular nesting content) :
    Lawful (.content content) (ofContent nesting name content) where
  given := by
    constructor
    · rintro ⟨key, hkey⟩
      obtain ⟨-, items, secret, ⟨text, rfl, harray, hcount, hpair⟩, -⟩ := ofContent_eq_ok_iff.mp hkey
      have hitems := hcount.eq_numbers (h.numeric text items secret rfl harray hcount hpair)
      rw [hitems] at harray
      exact ⟨secret, text, rfl, harray, hpair⟩
    · rintro ⟨secret, text, htext, hnumbers, hpair⟩
      exact exists_of_keeps h.read
        ⟨text, FileEntry.content.inj htext, hnumbers, countAs_numbers secret, hpair⟩
  same := fun key _ hkey hpair => ⟨key, ofSeed_of_pair hkey hpair, rfl, fun _ => rfl⟩
  refused := by
    intro e _ he
    obtain hsigning | hunread := ofContent_error_cases he
    · exact hsigning
    · exact absurd hunread (h.read e)

theorem Lawful.read {name : String}
    (h : Lawful (.content content) (ofContent nesting name content)) (e : Failure) :
    ¬ Unread nesting content e := by
  intro hunread
  obtain ⟨fault, hfault⟩ := h.refused e nofun (ofContent_of_unread hunread)
  exact hunread.not_client _ hfault

theorem Lawful.regular {name : String}
    (h : Lawful (.content content) (ofContent nesting name content)) : Regular nesting content where
  read := h.read
  numeric := by
    rintro text items secret rfl harray hcount hpair
    have hkeeps : Keeps (Text.Utf8.encode text) items secret := ⟨text, rfl, harray, hcount, hpair⟩
    obtain ⟨bytes, text', htext, hnumbers, -⟩ := h.given.mp (exists_of_keeps h.read hkeeps)
    obtain rfl := encode_inj (FileEntry.content.inj htext)
    obtain ⟨hitems, -⟩ := secret_unique harray hcount hnumbers
    rw [hitems]
    exact bool_not_mem_numbers bytes

/-- A text within the limits of the reader that says neither true nor false is regular. -/
theorem regular_of_within (hlimits : Json.Within nesting text.toList)
    (hwords : ∀ b, ¬ Json.truthWord b <:+: text.toList) :
    Regular nesting (Text.Utf8.encode text) where
  read := by
    intro e hunread
    cases hunread with
    | undecodable h => exact h text rfl
    | limit htext h hfault =>
      rw [← encode_inj htext] at h
      exact hfault (Json.parse_within hlimits h)
  numeric := by
    intro text' items secret htext harray _ _ b hb
    rw [← encode_inj htext] at harray
    exact hwords b (harray.truthWord_infix hb)

/-- There is no pair where there is no content. -/
theorem not_holdsPair {entry : FileEntry} (h : ∀ content, entry ≠ .content content) :
    ¬ ∃ secret, HoldsPair entry secret := by
  rintro ⟨secret, text, hentry, -⟩
  exact h _ hentry

theorem lawful_missing (name : String) : Lawful .missing (outcomeOf nesting name .missing) where
  given := ⟨nofun, fun h => absurd h (not_holdsPair nofun)⟩
  same := nofun
  refused := by
    rintro e - ⟨⟩
    exact ⟨_, rfl⟩

theorem lawful_unreadable_iff (name : String) (kind : FaultKind) :
    Lawful (.unreadable kind) (outcomeOf nesting name (.unreadable kind)) ↔ kind = .isDirectory := by
  constructor
  · intro h
    apply Decidable.byContradiction
    intro hkind
    have hentry : FileEntry.unreadable kind ≠ .unreadable .isDirectory := by
      intro heq
      exact hkind (FileEntry.unreadable.inj heq)
    obtain ⟨fault, hfault⟩ := h.refused _ hentry rfl
    cases hfault
  · rintro rfl
    refine ⟨⟨nofun, fun h => absurd h (not_holdsPair nofun)⟩, nofun, ?_⟩
    intro e hentry
    exact absurd rfl hentry

/-- When the law holds of a file, by what its path leads to. -/
theorem lawful_entry_iff (name : String) (entry : FileEntry) :
    Lawful entry (outcomeOf nesting name entry) ↔
      (∀ kind, entry = .unreadable kind → kind = .isDirectory) ∧
      ∀ content, entry = .content content → Regular nesting content := by
  cases entry with
  | missing => exact ⟨fun _ => ⟨nofun, nofun⟩, fun _ => lawful_missing name⟩
  | unreadable kind =>
    rw [lawful_unreadable_iff]
    constructor
    · rintro rfl
      exact ⟨fun kind hkind => (FileEntry.unreadable.inj hkind).symm, nofun⟩
    · intro h
      exact h.1 kind rfl
  | content content =>
    constructor
    · intro h
      refine ⟨nofun, ?_⟩
      rintro _ ⟨⟩
      exact Lawful.regular h
    · intro h
      exact (h.2 content rfl).lawful

/-- The law holds of a file exactly if its path can be looked up, nothing but a directory stands
where the file should be, and the content, if there is one, is regular. So it holds of every text
within the limits of the reader that says neither true nor false. -/
theorem ofFile_lawful_iff (nesting : Nat) (homes : Homes) (files : Path → FileEntry) (path : Path) :
    (Lawful (entryAt homes files path) (ofFile nesting homes files path) ↔
      Searchable homes path ∧
      (∀ kind, entryAt homes files path = .unreadable kind → kind = .isDirectory) ∧
      ∀ content, entryAt homes files path = .content content → Regular nesting content) ∧
    ∀ text, entryAt homes files path = .content (Text.Utf8.encode text) →
      Json.Within nesting text.toList → (∀ b, ¬ Json.truthWord b <:+: text.toList) →
      Lawful (entryAt homes files path) (ofFile nesting homes files path) := by
  by_cases hsearch : Searchable homes path
  · obtain ⟨name, hfile⟩ := @ofFile_of_searchable nesting homes files path hsearch
    rw [hfile, lawful_entry_iff]
    refine ⟨⟨fun h => ⟨hsearch, h⟩, And.right⟩, ?_⟩
    intro text hentry hlimits hwords
    rw [hentry]
    refine ⟨nofun, ?_⟩
    rintro _ ⟨⟩
    exact regular_of_within hlimits hwords
  · obtain ⟨hentry, e, hfile, hclient⟩ := @ofFile_of_not_searchable nesting homes files path hsearch
    rw [hentry, hfile]
    refine ⟨⟨?_, fun h => absurd h.1 hsearch⟩, nofun⟩
    intro h
    obtain ⟨fault, hfault⟩ := h.refused e nofun rfl
    exact absurd hfault (hclient _)

/-! ## Files that are written -/

/-- The secret key: the seed and the public key. -/
def pair (key : Key) : Bytes := key.seed ++ key.address.bytes

/-- The file of an array. -/
def fileOf (layout : Json.Layout) (items : List Json) : Bytes :=
  Text.Utf8.encode (Json.write layout (.list items))

theorem isPair_pair (key : Key) : IsPair key.pair where
  size := by
    rw [pair, List.length_append, key.size, key.address.size]
    rfl
  halves := by
    rw [pair, List.take_left' key.size, List.drop_left' key.size, address_bytes]

theorem ofSeed_pair (key : Key) : ofSeed (key.pair.take seedSize) = .ok key :=
  ofSeed_eq_ok_iff.mpr (List.take_left' key.size).symm

section

variable {layout : Json.Layout} {gap : List Char} (hcomma : layout.comma.toList = ',' :: gap)
  (hgap : Json.Gap gap)

include hcomma hgap

/-- A file of plain items is read to its end. -/
theorem not_unread_fileOf (hitems : ∀ v ∈ items, Plain v) (e : Failure) :
    ¬ Unread (nesting + 1) (fileOf layout items) e := by
  intro hunread
  cases hunread with
  | undecodable h => exact h _ rfl
  | limit htext h =>
    rw [← encode_inj htext, Json.parse_write_list hcomma hgap hitems] at h
    cases h

theorem regular_written (nesting : Nat) (bytes : Bytes) :
    Regular (nesting + 1) (fileOf layout (numbers bytes)) where
  read := not_unread_fileOf hcomma hgap (countAs_numbers bytes).plain
  numeric := by
    intro text items secret htext harray hcount _
    have hwritten := Json.isArray_write hcomma hgap (countAs_numbers bytes).plain
    rw [encode_inj htext] at hwritten
    rw [(secret_unique harray hcount hwritten).1]
    exact bool_not_mem_numbers bytes

/-- A file of what counts as the bytes of a secret key gives the key. -/
theorem ofContent_fileOf {name : String} (hcount : CountAs items key.pair) :
    ofContent (nesting + 1) name (fileOf layout items) = .ok key := by
  have hkeeps : Keeps (fileOf layout items) items key.pair :=
    ⟨_, rfl, Json.isArray_write hcomma hgap hcount.plain, hcount, isPair_pair key⟩
  exact ofContent_eq_ok_iff.mpr
    ⟨not_unread_fileOf hcomma hgap hcount.plain, items, key.pair, hkeeps, ofSeed_pair key⟩

/-- The array of a key's bytes, as it is written, gives the key. -/
theorem ofContent_written (name : String) (key : Key) :
    ofContent (nesting + 1) name (fileOf layout (numbers key.pair)) = .ok key :=
  ofContent_fileOf hcomma hgap (countAs_numbers key.pair)

/-- A truth value that counts as a byte of a secret key breaks the law. -/
theorem not_lawful_fileOf {name : String} {b : Bool} (hcount : CountAs items key.pair)
    (hb : .bool b ∈ items) :
    ¬ Lawful (.content (fileOf layout items)) (ofContent nesting name (fileOf layout items)) := by
  intro h
  have harray : IsArray (Json.write layout (.list items)) items :=
    Json.isArray_write hcomma hgap hcount.plain
  exact h.regular.numeric _ _ _ rfl harray hcount (isPair_pair key) b hb

end

end StorageAgent.Key

namespace StorageAgent

namespace Sample

/-- The home of a user who is alone. -/
def soleHome : Homes := ⟨"/home/agent", fun _ => none⟩

/-- A path in the working directory. -/
def keypairPath : Path := ⟨"", ["id.json"]⟩

/-- The same content at every path. -/
def filed (content : Bytes) : Path → FileEntry := fun _ => .content content

/-- The file of the key's bytes. -/
def keypair : Bytes := Key.fileOf .line (Key.numbers key.pair)

/-- The bytes of the key, with truth values for the first two. -/
def truths : List Json := .bool false :: .bool true :: Key.numbers (key.pair.drop 2)

theorem entryAt_filed (content : Bytes) :
    Key.entryAt soleHome (filed content) keypairPath = .content content := rfl

theorem ofFile_filed (nesting : Nat) (content : Bytes) :
    Key.ofFile nesting soleHome (filed content) keypairPath =
      Key.ofContent nesting "id.json" content := rfl

theorem searchable : Key.Searchable soleHome keypairPath := ⟨keypairPath, rfl, by decide⟩

theorem truths_countAs : Key.CountAs truths key.pair :=
  .cons .no (.cons .yes (Key.countAs_numbers (key.pair.drop 2)))

theorem comma_line : Json.Layout.line.comma.toList = ',' :: [' '] := rfl

theorem gap_line : Json.Gap [' '] := by
  intro c hc
  rw [List.mem_singleton.mp hc]
  rfl

end Sample

namespace Key

/-- The law holds of the file of a key's bytes, which gives the key, and of an empty array, which
gives none. -/
theorem ofFile_lawful_keypair :
    (Lawful (entryAt Sample.soleHome (Sample.filed Sample.keypair) Sample.keypairPath)
        (ofFile Capacity.standard.nesting Sample.soleHome (Sample.filed Sample.keypair)
          Sample.keypairPath) ∧
      ofFile Capacity.standard.nesting Sample.soleHome (Sample.filed Sample.keypair)
        Sample.keypairPath = .ok Sample.key) ∧
    Json.Within Capacity.standard.nesting "[]".toList ∧ (∀ b, ¬ Json.truthWord b <:+: "[]".toList) ∧
      Lawful (entryAt Sample.soleHome (Sample.filed (Text.Utf8.encode "[]")) Sample.keypairPath)
        (ofFile Capacity.standard.nesting Sample.soleHome (Sample.filed (Text.Utf8.encode "[]"))
          Sample.keypairPath) := by
  have hregular : Regular Capacity.standard.nesting Sample.keypair :=
    regular_written Sample.comma_line Sample.gap_line 984 Sample.key.pair
  have hgiven : ofContent Capacity.standard.nesting "id.json" Sample.keypair = .ok Sample.key :=
    ofContent_written Sample.comma_line Sample.gap_line "id.json" Sample.key
  have hlimits : Json.Within Capacity.standard.nesting "[]".toList := by
    refine ⟨by decide, ?_⟩
    intro run hrun _
    exact Nat.le_trans hrun.length_le (by decide)
  have hwords : ∀ b, ¬ Json.truthWord b <:+: "[]".toList := by
    intro b hword
    have hlength := hword.length_le
    cases b <;> revert hlength <;> decide
  refine ⟨⟨(ofFile_lawful_iff _ _ _ _).1.mpr ⟨Sample.searchable, nofun, ?_⟩, ?_⟩, hlimits, hwords,
    (ofFile_lawful_iff _ _ _ _).2 _ (Sample.entryAt_filed _) hlimits hwords⟩
  · intro content hcontent
    rw [Sample.entryAt_filed] at hcontent
    rwa [← FileEntry.content.inj hcontent]
  · rw [Sample.ofFile_filed]
    exact hgiven

/-- An array with truth values gives a key, and bytes that are no UTF-8 end in no client error. -/
theorem unlawful_files :
    (ofFile Capacity.standard.nesting Sample.soleHome (Sample.filed (fileOf .line Sample.truths))
        Sample.keypairPath = .ok Sample.key ∧
      ¬ Lawful
        (entryAt Sample.soleHome (Sample.filed (fileOf .line Sample.truths)) Sample.keypairPath)
        (ofFile Capacity.standard.nesting Sample.soleHome
          (Sample.filed (fileOf .line Sample.truths)) Sample.keypairPath)) ∧
    ofFile Capacity.standard.nesting Sample.soleHome (Sample.filed [0xFF]) Sample.keypairPath
        = .error (Failure.of .undecodable) ∧
      ¬ Lawful (entryAt Sample.soleHome (Sample.filed [0xFF]) Sample.keypairPath)
        (ofFile Capacity.standard.nesting Sample.soleHome (Sample.filed [0xFF])
          Sample.keypairPath) := by
  rw [Sample.entryAt_filed, Sample.entryAt_filed, Sample.ofFile_filed, Sample.ofFile_filed]
  have hundecodable : ofContent Capacity.standard.nesting "id.json" [0xFF] =
      .error (Failure.of .undecodable) := rfl
  have hgiven : ofContent Capacity.standard.nesting "id.json" (fileOf .line Sample.truths) =
      .ok Sample.key :=
    ofContent_fileOf Sample.comma_line Sample.gap_line Sample.truths_countAs
  have htruth : .bool false ∈ Sample.truths := List.mem_cons_self
  refine ⟨⟨hgiven, ?_⟩, hundecodable, ?_⟩
  · exact not_lawful_fileOf Sample.comma_line Sample.gap_line Sample.truths_countAs htruth
  · intro h
    obtain ⟨fault, hfault⟩ := h.refused _ nofun hundecodable
    cases hfault

end Key
end StorageAgent
