/-
This file says which documents of other instances are accepted. A record is an object of known
and different names, or an array of all its fields; a text that has to be there is a string, and
one that may be missing is absent, null or a string. What is accepted has these fields and no
others, keeps its limits and names what was asked for, and nothing more is required of it. So a
declaration and a profile are accepted as they were written exactly if they keep their limits.
-/

import HandleFederation.Proofs.HiddenFailure
import HandleFederation.Proofs.ServedDeclaration

namespace HandleFederation

open Text

/-! ### Bytes -/

/-- The bytes of a document with a value. -/
inductive Json.IsBody (value : Json) : List UInt8 → Prop
  | intro {letters : List Char} (isDocument : IsDocument value letters) : IsBody value (Utf8.encode letters)

/-- The bytes of documents are read, each with its value, and nothing else is. -/
theorem Json.ofBytes?_eq_some_iff {bytes : List UInt8} {value : Json} :
    ofBytes? bytes = some value ↔ IsBody value bytes := by
  rw [ofBytes?, Option.bind_eq_some_iff]
  constructor
  · rintro ⟨letters, isText, reads⟩
    rw [Utf8.decode?_eq_some_iff.mp isText]
    exact .intro (ofLetters?_eq_some_iff.mp reads)
  · rintro ⟨isDocument⟩
    exact ⟨_, Utf8.decode?_encode _, ofLetters?_eq_some_iff.mpr isDocument⟩

/-! ### Records -/

namespace Json

/-- How the fields of a record of some names stand in a value: as the members of an object, in any
order but with no other name and none twice, or as the elements of an array, all of them and in
order. -/
inductive HasFields (names : List String) : Json → List (Option Json) → Prop
  | object {members : List (String × Json)} (known : ∀ member ∈ members, member.1 ∈ names)
    (distinct : (members.map Prod.fst).Nodup) :
    HasFields names (.object members) (names.map fun name => members.lookup name)
  | array {elements : List Json} (complete : elements.length = names.length) :
    HasFields names (.array elements) (elements.map some)

theorem allDistinct_iff (names : List String) : allDistinct names = true ↔ names.Nodup := by
  induction names with
  | nil => simp [allDistinct]
  | cons name others inductionHypothesis => simp [allDistinct, inductionHypothesis]

/-- As many members have a known name as there are, or one of them has another name. -/
theorem length_known_eq_iff {names : List String} {members : List (String × Json)} :
    ((members.map Prod.fst).filter names.contains).length = members.length ↔
      ∀ member ∈ members, member.1 ∈ names := by
  have length : members.length = (members.map Prod.fst).length := (List.length_map _).symm
  rw [length, List.length_filter_eq_length_iff]
  simp

/-- The fields of an object that is read strictly are looked up by their names. -/
theorem fields?_object_eq_some_iff {names : List String} {members : List (String × Json)}
    {fields : List (Option Json)} :
    (object members).fields? true names = some fields ↔
      (∀ member ∈ members, member.1 ∈ names) ∧ (members.map Prod.fst).Nodup ∧
        fields = names.map fun name => members.lookup name := by
  rw [← length_known_eq_iff, ← allDistinct_iff, fields?]
  by_cases known : ((members.map Prod.fst).filter names.contains).length = members.length
  · have all := List.filter_eq_self.mpr fun name member =>
      (List.length_filter_eq_length_iff.mp (known.trans (List.length_map _).symm)) name member
    simp only [all, List.length_map, bne_self_eq_false, Bool.and_false, Bool.false_eq_true, if_false]
    cases allDistinct (members.map Prod.fst) <;> simp [eq_comm]
  · simp [known]

/-- The fields of a record that is read strictly are those that stand in it. -/
theorem fields?_eq_some_iff {names : List String} {value : Json} {fields : List (Option Json)} :
    value.fields? true names = some fields ↔ HasFields names value fields := by
  constructor
  · intro reads
    cases value with
    | object members =>
      obtain ⟨known, distinct, rfl⟩ := fields?_object_eq_some_iff.mp reads
      exact .object known distinct
    | array elements =>
      rw [fields?] at reads
      split at reads
      · rename_i complete
        cases reads
        exact .array complete
      · cases reads
    | _ => cases reads
  · rintro (⟨known, distinct⟩ | complete)
    · exact fields?_object_eq_some_iff.mpr ⟨known, distinct, rfl⟩
    · rw [fields?, if_pos complete]

/-- What a field that may be missing holds: a text, or nothing if it is absent or null. -/
inductive IsOptionalText : Option Json → Option String → Prop
  | absent : IsOptionalText none none
  | null : IsOptionalText (some .null) none
  | text (text : String) : IsOptionalText (some (.string text)) (some text)

theorem requiredText?_eq_some_iff {field : Option Json} {text : String} :
    requiredText? field = some text ↔ field = some (.string text) := by
  unfold requiredText? string?
  cases field with
  | none => simp
  | some value => cases value <;> simp

theorem optionalText?_eq_some_iff {field : Option Json} {text : Option String} :
    optionalText? field = some text ↔ IsOptionalText field text := by
  constructor
  · unfold optionalText?
    split
    · rintro ⟨⟩
      exact .absent
    · rintro ⟨⟩
      exact .null
    · rintro ⟨⟩
      exact .text _
    · nofun
  · rintro ⟨⟩ <;> rfl

end Json

/-- How a mode stands in a value: as its word, or as an object with that name and nothing behind it. -/
inductive FederationMode.IsNamed (mode : FederationMode) : Json → Prop
  | word : IsNamed mode (.string mode.word)
  | alternative : IsNamed mode (.object [(mode.word, .null)])

theorem FederationMode.ofWord?_eq_some_iff {word : String} {mode : FederationMode} :
    ofWord? word = some mode ↔ word = mode.word := by
  constructor
  · unfold ofWord?
    intro named
    split at named
    · cases named
      assumption
    · split at named
      · cases named
        assumption
      · split at named
        · cases named
          assumption
        · cases named
  · rintro rfl
    cases mode <;> decide

theorem FederationMode.ofJson?_eq_some_iff {value : Json} {mode : FederationMode} :
    ofJson? value = some mode ↔ mode.IsNamed value := by
  rw [ofJson?, Option.bind_eq_some_iff]
  simp only [ofWord?_eq_some_iff]
  constructor
  · rintro ⟨word, isAlternative, rfl⟩
    unfold Json.alternative? at isAlternative
    split at isAlternative
    · cases isAlternative
      exact .word
    · cases isAlternative
      exact .alternative
    · cases isAlternative
  · rintro ⟨⟩ <;> exact ⟨_, rfl, rfl⟩

/-! ### Profiles -/

namespace Profile

/-- A value holds the fields of a profile: two texts that have to be there, and four that may be
missing. -/
def IsRecord (profile : Profile) (value : Json) : Prop :=
  ∃ displayName avatarId bio createdAt,
    Json.HasFields ["id", "username", "display_name", "avatar_id", "bio", "created_at"] value
      [some (.string profile.id), some (.string profile.username), displayName, avatarId, bio, createdAt] ∧
    Json.IsOptionalText displayName profile.displayName ∧ Json.IsOptionalText avatarId profile.avatarId ∧
    Json.IsOptionalText bio profile.bio ∧ Json.IsOptionalText createdAt profile.createdAt

/-- The texts of a profile have no more characters than they may have, and those that have to be there
have some. -/
structure KeepsLimits (profile : Profile) : Prop where
  id : 1 ≤ profile.id.length ∧ profile.id.length ≤ 128
  username : 1 ≤ profile.username.length ∧ profile.username.length ≤ 32
  displayName : ∀ text ∈ profile.displayName, text.length ≤ 128
  avatarId : ∀ text ∈ profile.avatarId, text.length ≤ 256
  bio : ∀ text ∈ profile.bio, text.length ≤ 2048

/-- A profile is read from the records that hold it. -/
theorem ofJson?_eq_some_iff {value : Json} {profile : Profile} :
    ofJson? value = some profile ↔ profile.IsRecord value := by
  constructor
  · intro reads
    obtain ⟨fields, isFields, reads⟩ := Option.bind_eq_some_iff.mp reads
    have hasFields := Json.fields?_eq_some_iff.mp isFields
    split at reads
    · rename_i idField usernameField displayName avatarId bio createdAt
      simp only [Option.bind_eq_bind, Option.bind_eq_some_iff, Option.pure_def, Option.some_inj,
        Json.requiredText?_eq_some_iff, Json.optionalText?_eq_some_iff] at reads
      obtain ⟨id, rfl, username, rfl, _, isDisplayName, _, isAvatarId, _, isBio, _, isCreatedAt, rfl⟩ := reads
      exact ⟨displayName, avatarId, bio, createdAt, hasFields, isDisplayName, isAvatarId, isBio, isCreatedAt⟩
    · cases reads
  · rintro ⟨displayName, avatarId, bio, createdAt, hasFields, isDisplayName, isAvatarId, isBio, isCreatedAt⟩
    have isFields := Json.fields?_eq_some_iff.mpr hasFields
    rw [← Json.optionalText?_eq_some_iff] at isDisplayName isAvatarId isBio isCreatedAt
    simp only [ofJson?, fieldNames, isFields, Option.bind_eq_bind, Option.bind_some,
      Json.requiredText?_eq_some_iff.mpr rfl, isDisplayName, isAvatarId, isBio, isCreatedAt, Option.pure_def]

/-- A profile is read from the bytes of these records. -/
theorem reads_iff {body : List UInt8} {profile : Profile} :
    (Json.ofBytes? body).bind ofJson? = some profile ↔
      ∃ value, Json.IsBody value body ∧ profile.IsRecord value := by
  simp only [Option.bind_eq_some_iff, Json.ofBytes?_eq_some_iff, ofJson?_eq_some_iff]

theorem absentOrWithin_iff (most : Nat) (text : Option String) :
    absentOrWithin most text = true ↔ ∀ present ∈ text, present.length ≤ most := by
  cases text <;> simp [absentOrWithin]

theorem isWithinBounds_iff {profile : Profile} : profile.isWithinBounds = true ↔ profile.KeepsLimits := by
  simp only [isWithinBounds, Bool.and_eq_true, Declaration.lengthWithin_iff, absentOrWithin_iff]
  constructor
  · rintro ⟨⟨⟨⟨id, username⟩, displayName⟩, avatarId⟩, bio⟩
    exact ⟨id, username, displayName, avatarId, bio⟩
  · rintro ⟨id, username, displayName, avatarId, bio⟩
    exact ⟨⟨⟨⟨id, username⟩, displayName⟩, avatarId⟩, bio⟩

/-- A body is accepted for a username if it is the bytes of a record that keeps its limits and has this
username up to case. -/
theorem ofBody?_eq_some_iff {username : String} {body : List UInt8} {profile : Profile} :
    ofBody? username body = some profile ↔
      (∃ value, Json.IsBody value body ∧ profile.IsRecord value) ∧ profile.KeepsLimits ∧
        lower profile.username = lower username := by
  rw [← reads_iff, ← isWithinBounds_iff, ← sameUpToCase_iff, ofBody?]
  cases (Json.ofBytes? body).bind ofJson? with
  | none => simp
  | some found => grind

end Profile

/-! ### Declarations -/

namespace Declaration

/-- A value holds the fields of a declaration, all of which have to be there. -/
def IsRecord (declaration : Declaration) (value : Json) : Prop :=
  ∃ mode, Json.HasFields ["instance_id", "domain", "public_key", "name", "software", "federation_mode"] value
      [some (.string declaration.instanceId), some (.string declaration.domain),
        some (.string declaration.publicKey), some (.string declaration.name),
        some (.string declaration.software), some mode] ∧
    declaration.mode.IsNamed mode

/-- The texts of a declaration have no more characters than they may have, and all but the name have
some. -/
structure KeepsLimits (declaration : Declaration) : Prop where
  instanceId : 1 ≤ declaration.instanceId.length ∧ declaration.instanceId.length ≤ 128
  domain : 1 ≤ declaration.domain.length ∧ declaration.domain.length ≤ 253
  publicKey : 1 ≤ declaration.publicKey.length ∧ declaration.publicKey.length ≤ 4096
  name : declaration.name.length ≤ 256
  software : 1 ≤ declaration.software.length ∧ declaration.software.length ≤ 128

/-- A declaration is read from the records that hold it. -/
theorem ofJson?_eq_some_iff {value : Json} {declaration : Declaration} :
    ofJson? value = some declaration ↔ declaration.IsRecord value := by
  constructor
  · intro reads
    obtain ⟨fields, isFields, reads⟩ := Option.bind_eq_some_iff.mp reads
    have hasFields := Json.fields?_eq_some_iff.mp isFields
    split at reads
    · simp only [Option.bind_eq_bind, Option.bind_eq_some_iff, Option.pure_def, Option.some_inj,
        Json.requiredText?_eq_some_iff, FederationMode.ofJson?_eq_some_iff] at reads
      obtain ⟨_, rfl, _, rfl, _, rfl, _, rfl, _, rfl, mode, ⟨value, rfl, isNamed⟩, rfl⟩ := reads
      exact ⟨value, hasFields, isNamed⟩
    · cases reads
  · rintro ⟨mode, hasFields, isNamed⟩
    have isFields := Json.fields?_eq_some_iff.mpr hasFields
    rw [← FederationMode.ofJson?_eq_some_iff] at isNamed
    simp only [ofJson?, fieldNames, isFields, Option.bind_eq_bind, Option.bind_some,
      Json.requiredText?_eq_some_iff.mpr rfl, isNamed, Option.pure_def]

/-- A declaration is read from the bytes of these records. -/
theorem reads_iff {body : List UInt8} {declaration : Declaration} :
    (Json.ofBytes? body).bind ofJson? = some declaration ↔
      ∃ value, Json.IsBody value body ∧ declaration.IsRecord value := by
  simp only [Option.bind_eq_some_iff, Json.ofBytes?_eq_some_iff, ofJson?_eq_some_iff]

theorem isWithinBounds_iff {declaration : Declaration} :
    declaration.isWithinBounds = true ↔ declaration.KeepsLimits := by
  simp only [isWithinBounds, Bool.and_eq_true, lengthWithin_iff]
  constructor
  · rintro ⟨⟨⟨⟨instanceId, domain⟩, publicKey⟩, name⟩, software⟩
    exact ⟨instanceId, domain, publicKey, name.2, software⟩
  · rintro ⟨instanceId, domain, publicKey, name, software⟩
    exact ⟨⟨⟨⟨instanceId, domain⟩, publicKey⟩, Nat.zero_le _, name⟩, software⟩

/-- What a request brings is accepted for a domain if it is a response of status 200 and the bytes of a
record that keeps its limits and has this domain up to case. -/
theorem accepts_iff {domain : String} {exchange : Exchange} {declaration : Declaration} :
    ofExchange domain exchange = .ok declaration ↔
      ∃ body, exchange = .ok ⟨200, body⟩ ∧
        (∃ value, Json.IsBody value body ∧ declaration.IsRecord value) ∧ declaration.KeepsLimits ∧
          lower declaration.domain = lower domain := by
  cases exchange with
  | error fault =>
    constructor
    · nofun
    · rintro ⟨_, ⟨⟩, _⟩
  | ok response =>
    rw [ofExchange_eq_ok_iff, reads_iff, isWithinBounds_iff, sameUpToCase_iff]
    constructor
    · rintro ⟨isOk, isRecord, keepsLimits, isNamed⟩
      exact ⟨response.body, by rw [← isOk], isRecord, keepsLimits, isNamed⟩
    · rintro ⟨body, ⟨⟩, isRecord, keepsLimits, isNamed⟩
      exact ⟨rfl, isRecord, keepsLimits, isNamed⟩

/-- Asking the instance of a domain brings a declaration if its URL is well-formed and what comes from there
is accepted. -/
theorem run_askDeclaration_eq_ok_iff {surroundings : Surroundings} {world : World} {domain : String}
    {declaration : Declaration} :
    ((Resolution.askDeclaration domain).run surroundings world).1 = some (.ok declaration) ↔
      ∃ url, declarationUrl domain = .ok url ∧
        ofExchange domain (surroundings.transport world.requested url) = .ok declaration := by
  rw [Resolution.run_askDeclaration, Option.some_inj, World.declaring]
  cases declarationUrl domain with
  | error fault => simp
  | ok url => simp

end Declaration

/-! ### Documents of other instances -/

/-- The documents of other instances are read strictly. The body of an answer about a user is accepted with
a profile exactly if it is one document, the record of that profile, which keeps its limits and has the
username that was asked for up to case; and so for the declaration of the instance of a domain. As it was
written, each is accepted exactly if it keeps its limits and names what was asked for. -/
theorem Response.documents_are_read_strictly :
    (∀ (username : String) (body : List UInt8) (profile : Profile),
      Profile.ofBody? username body = some profile ↔
        (∃ value, Json.IsBody value body ∧ profile.IsRecord value) ∧ profile.KeepsLimits ∧
          lower profile.username = lower username) ∧
    (∀ (surroundings : Surroundings) (world : World) (domain : String) (declaration : Declaration),
      ((Resolution.askDeclaration domain).run surroundings world).1 = some (.ok declaration) ↔
        ∃ url body, declarationUrl domain = .ok url ∧
          surroundings.transport world.requested url = .ok ⟨200, body⟩ ∧
          (∃ value, Json.IsBody value body ∧ declaration.IsRecord value) ∧ declaration.KeepsLimits ∧
            lower declaration.domain = lower domain) ∧
    (∀ (username : String) (profile : Profile),
      Profile.ofBody? username (Utf8.bytes profile.toJson.toText) = some profile ↔
        profile.KeepsLimits ∧ lower profile.username = lower username) ∧
    ∀ (domain : String) (declaration : Declaration),
      Declaration.ofExchange domain (.ok ⟨200, Utf8.bytes declaration.toJson.toText⟩) = .ok declaration ↔
        declaration.KeepsLimits ∧ lower declaration.domain = lower domain := by
  refine ⟨fun _ _ _ => Profile.ofBody?_eq_some_iff, fun surroundings world domain declaration => ?_,
    fun username profile => ?_, fun domain declaration => ?_⟩
  · rw [Declaration.run_askDeclaration_eq_ok_iff]
    simp only [Declaration.accepts_iff]
    exact exists_congr fun url => ⟨fun ⟨isUrl, body, accepted⟩ => ⟨body, isUrl, accepted⟩,
      fun ⟨body, isUrl, accepted⟩ => ⟨isUrl, body, accepted⟩⟩
  · rw [Profile.ofBody?_eq_some_iff]
    exact and_iff_right (Profile.reads_iff.mp profile.reads_toText)
  · rw [Declaration.ofExchange_eq_ok_iff, declaration.reads_toText, Declaration.isWithinBounds_iff,
      sameUpToCase_iff]
    simp

end HandleFederation
