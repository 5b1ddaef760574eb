/-
This file says that a username comes through the query of a URL. Written for a query,
a text is left with letters, digits, a few marks and percent signs, and none of these
means anything to the reading of a URL or of a form: the one keeps the query as it is,
and the other finds one pair in it, whose name and value decode to what was written. So
the instance that is asked for a user looks for just the username that was meant. The
query starts at the first question mark of the URL as it is written, so that URLs that
are written alike ask for one user.
-/

import HandleFederation.Form
import HandleFederation.Proofs.ContactedHost
import HandleFederation.Proofs.EncodedText

namespace HandleFederation

open Text Unicode

/-! ### Queries -/

namespace Percent

/-- Characters of ASCII that stand for themselves are written as they are. -/
theorem encode_eq_self {kept : Char → Bool} {letters : List Char}
    (stays : ∀ letter ∈ letters, letter.toNat < 0x80 ∧ kept letter = true) : encode kept letters = letters := by
  induction letters with
  | nil => rfl
  | cons letter rest inductionHypothesis =>
    obtain ⟨⟨isAscii, isKept⟩, others⟩ := List.forall_mem_cons.mp stays
    have restStays := inductionHypothesis others
    have isByte : (UInt8.ofNat letter.toNat).toNat = letter.toNat := Utf8.toNat_ofNat_of_lt (by omega)
    have isSmall : UInt8.ofNat letter.toNat < 0x80 := UInt8.lt_iff_toNat_lt.mpr (isByte.symm ▸ isAscii)
    unfold encode at restStays ⊢
    rw [Utf8.encode_cons_of_ascii isAscii, List.flatMap_cons, restStays, isByte, Char.ofNat_toNat]
    dsimp only
    rw [isKept, decide_eq_true isSmall]
    rfl

/-- What is written for a query stands for itself in it. -/
theorem keptInQuery_of_mem_encode {letters : List Char} {letter : Char}
    (member : letter ∈ encode isUnreserved letters) : keptInQuery true letter = true := by
  obtain ⟨isVisible, isAscii⟩ := toNat_of_mem_encode member
  have notControl : isControl letter = false := by
    simp only [isControl, Bool.or_eq_false_iff, decide_eq_false_iff_not, beq_eq_false_iff_ne]
    omega
  have differs {other : Char} (notWritten : isWritten other = false) : letter ≠ other :=
    ne_of_mem_encode member notWritten
  simp [keptInQuery, notControl, differs (by decide : isWritten ' ' = false),
    differs (by decide : isWritten '"' = false), differs (by decide : isWritten '#' = false),
    differs (by decide : isWritten '<' = false), differs (by decide : isWritten '>' = false),
    differs (by decide : isWritten '\'' = false)]

end Percent

/-! ### Forms -/

namespace Form

/-- A text that was written for a query is read back. -/
theorem decodeText_encode (text : String) :
    decodeText (Percent.encode Percent.isUnreserved text.toList) = text := by
  have noPlus : (Percent.encode Percent.isUnreserved text.toList).map
      (fun letter => if letter == '+' then ' ' else letter) =
      Percent.encode Percent.isUnreserved text.toList := by
    refine (List.map_congr_left fun letter member => ?_).trans (List.map_id _)
    have notPlus : letter ≠ '+' := Percent.ne_of_mem_encode member (by decide)
    exact if_neg fun isPlus => notPlus (eq_of_beq isPlus)
  rw [decodeText, noPlus, Percent.decode_encode,
    Utf8.decodeLenient_of_decode? (Utf8.decode?_encode text.toList), String.ofList_toList]

/-- A pair that was written for a query. -/
def pairLetters (name value : String) : List Char :=
  Percent.encode Percent.isUnreserved name.toList ++ '=' :: Percent.encode Percent.isUnreserved value.toList

theorem decodePair_pairLetters (name value : String) : decodePair (pairLetters name value) = (name, value) := by
  have noEquals : ∀ letter ∈ Percent.encode Percent.isUnreserved name.toList, (letter != '=') = true :=
    fun _ member => bne_iff_ne.mpr (Percent.ne_of_mem_encode member (by decide))
  rw [decodePair, pairLetters, Url.span_append_cons noEquals (by decide)]
  exact congrArg₂ Prod.mk (decodeText_encode name) (decodeText_encode value)

/-- A pair that was written for a query is all there is in it. -/
theorem decode_pairLetters (name value : String) : decode (pairLetters name value) = [(name, value)] := by
  have noAmpersand : '&' ∉ pairLetters name value := by
    intro member
    rcases List.mem_append.mp member with inName | inRest
    · exact Percent.ne_of_mem_encode inName (by decide) rfl
    · rcases List.mem_cons.mp inRest with isEquals | inValue
      · cases isEquals
      · exact Percent.ne_of_mem_encode inValue (by decide) rfl
  have notEmpty : (pairLetters name value).isEmpty = false :=
    List.isEmpty_eq_false_iff.mpr (List.append_ne_nil_of_right_ne_nil _ (List.cons_ne_nil _ _))
  have isKept : [pairLetters name value].filter (fun piece => !piece.isEmpty) = [pairLetters name value] :=
    List.filter_eq_self.mpr (List.forall_mem_singleton.mpr (congrArg (!·) notEmpty))
  rw [decode, List.splitOn_eq_singleton noAmpersand, isKept, List.map_singleton, decodePair_pairLetters]

/-- A query of one pair has the value under the name. -/
theorem field_pairLetters (name value : String) : field name (pairLetters name value) = .ok value := by
  have isNamed : [(name, value)].filter (fun pair => pair.1 == name) = [(name, value)] :=
    List.filter_eq_self.mpr (List.forall_mem_singleton.mpr (beq_self_eq_true name))
  rw [field, decode_pairLetters, isNamed]

end Form

/-! ### The URL of a user -/

namespace DomainName

variable {domain : String}

/-- A pair that was written for a query is a query as it is. -/
theorem readQuery_pairLetters (name value : String) :
    Url.readQuery true (Form.pairLetters name value) = Form.pairLetters name value := by
  refine Percent.encode_eq_self fun letter member => ?_
  have each (text : String) {letter : Char}
      (member : letter ∈ Percent.encode Percent.isUnreserved text.toList) :
      letter.toNat < 0x80 ∧ Percent.keptInQuery true letter = true :=
    ⟨Nat.lt_succ_of_lt (Percent.toNat_of_mem_encode member).2, Percent.keptInQuery_of_mem_encode member⟩
  rcases List.mem_append.mp member with inName | inRest
  · exact each name inName
  · rcases List.mem_cons.mp inRest with rfl | inValue
    · decide
    · exact each value inValue

/-- What stands after the host in the URL of a user does not depend on the host. -/
theorem exists_ofHost_of_lookupUrl (plain : IsPlain domain.toList) {username : String} {url : Url}
    (isLookup : Profile.lookupUrl domain username = .ok url) :
    ∃ host, readSpecialHost domain.toList = .ok host ∧ url = Url.ofHost host (lookupLetters username) := by
  rw [Profile.lookupUrl, read_eq_map_of_isPlain plain (spelt_lookup domain username)
    (visible_lookupLetters username)] at isLookup
  cases read : readSpecialHost domain.toList with
  | error fault =>
    rw [read] at isLookup
    cases isLookup
  | ok host =>
    rw [read] at isLookup
    cases isLookup
    exact ⟨host, rfl, rfl⟩

theorem query_ofHost_lookupLetters (host : Host) (username : String) :
    (Url.ofHost host (lookupLetters username)).query = some (Form.pairLetters "username" username) := by
  have isPair : "username=".toList ++ Percent.encode Percent.isUnreserved username.toList =
      Form.pairLetters "username" username := by
    have plainName : Percent.encode Percent.isUnreserved "username".toList = "username".toList := by
      decide
    rw [Form.pairLetters, plainName]
    rfl
  rw [Url.ofHost, splitParts_lookupLetters, isPair]
  dsimp only [Option.map_some]
  rw [readQuery_pairLetters]

theorem path_ofHost_lookupLetters (host : Host) (username : String) :
    (Url.ofHost host (lookupLetters username)).path.write = lookupPath.toList := by
  have isNormal : (Url.readPath true [] (Url.dropSlash lookupPath.toList)).write = lookupPath.toList := by
    decide
  rw [Url.ofHost, splitParts_lookupLetters]
  exact isNormal

theorem fragment_ofHost_lookupLetters (host : Host) (username : String) :
    (Url.ofHost host (lookupLetters username)).fragment = none := by
  rw [Url.ofHost, splitParts_lookupLetters]
  rfl

/-- The URL of a user asks for the user. -/
theorem field_of_lookupUrl (plain : IsPlain domain.toList) {username : String} {url : Url}
    (isLookup : Profile.lookupUrl domain username = .ok url) :
    Form.field "username" (url.query.getD []) = .ok username := by
  obtain ⟨host, -, rfl⟩ := exists_ofHost_of_lookupUrl plain isLookup
  rw [query_ofHost_lookupLetters]
  exact Form.field_pairLetters "username" username

/-! ### URLs that are written alike -/

theorem notMem_write_host (plain : IsPlain domain.toList) {host : Host}
    (read : readSpecialHost domain.toList = .ok host) : '?' ∉ host.write := by
  rcases name_or_v4_of_readSpecialHost plain read with rfl | ⟨address, rfl⟩
  · exact fun member => absurd (plain.letters '?' member) (by decide)
  · intro member
    have notDigit (number : Nat) : '?' ∉ Nat.toDigits 10 number := fun isDigit =>
      absurd (Nat.isDigit_of_mem_toDigits (by decide) (by decide) isDigit) (by decide)
    simp [Host.write, Ipv4.letters, notDigit] at member

/-- The first question mark of the URL of a user is the one in front of the query. -/
theorem write_of_lookupUrl (plain : IsPlain domain.toList) {username : String} {url : Url}
    (isLookup : Profile.lookupUrl domain username = .ok url) :
    ∃ front, url.write = front ++ '?' :: Form.pairLetters "username" username ∧ '?' ∉ front := by
  obtain ⟨host, read, rfl⟩ := exists_ofHost_of_lookupUrl plain isLookup
  refine ⟨"https://".toList ++ host.write ++ lookupPath.toList, ?_, ?_⟩
  · rw [Url.write, path_ofHost_lookupLetters, query_ofHost_lookupLetters, fragment_ofHost_lookupLetters]
    simp [Url.ofHost, Authority.write, writePart]
  · rw [List.mem_append, List.mem_append, not_or, not_or]
    exact ⟨⟨by decide, notMem_write_host plain read⟩, by decide⟩

/-- URLs of users that are written alike, of one instance or of two, are the URLs of one username. -/
theorem username_eq_of_toText_eq {otherDomain username otherName : String} {url other : Url}
    (plain : IsPlain domain.toList) (otherPlain : IsPlain otherDomain.toList)
    (isLookup : Profile.lookupUrl domain username = .ok url)
    (isOther : Profile.lookupUrl otherDomain otherName = .ok other) (same : url.toText = other.toText) :
    username = otherName := by
  obtain ⟨front, written, noMark⟩ := write_of_lookupUrl plain isLookup
  obtain ⟨otherFront, otherWritten, noOtherMark⟩ := write_of_lookupUrl otherPlain isOther
  have sameLetters : url.write = other.write := String.ofList_injective same
  rw [written, otherWritten] at sameLetters
  have cut {front : List Char} (noMark : '?' ∉ front) (rest : List Char) :
      (front ++ '?' :: rest).span (· != '?') = (front, '?' :: rest) := by
    have kept : ∀ letter ∈ front, (letter != '?') = true := fun letter member =>
      bne_iff_ne.mpr fun isMark => noMark (isMark ▸ member)
    exact Url.span_append_cons kept (bne_self_eq_false '?') rest
  have samePair := congrArg (fun letters => (letters.span (· != '?')).2.tail) sameLetters
  simp only [cut noMark, cut noOtherMark, List.tail_cons] at samePair
  have sameDecoded := congrArg Form.decode samePair
  rw [Form.decode_pairLetters, Form.decode_pairLetters] at sameDecoded
  exact congrArg Prod.snd (List.cons.inj sameDecoded).1

/-- The URL of a user reads back: its path is the one for lookups, nothing stands after its query, and the
query as a form has one pair, which is the name for usernames and the username. So no username adds or
changes another parameter, and the URLs of two users, of one instance or of two, are not written alike. -/
theorem lookupUrl_reads_back {blocked : List String} {text : String} (accepted : validate blocked text = .ok domain)
    {username : String} {url : Url} (isLookup : Profile.lookupUrl domain username = .ok url) :
    url.path.write = "/federation/v1/users/lookup".toList ∧ url.fragment = none ∧
    (∃ query, url.query = some query ∧ Form.decode query = [("username", username)] ∧
      Form.field "username" query = .ok username) ∧
    ∀ otherBlocked otherText otherDomain otherName other, validate otherBlocked otherText = .ok otherDomain →
      Profile.lookupUrl otherDomain otherName = .ok other → otherName ≠ username →
      other ≠ url ∧ other.toText ≠ url.toText := by
  have plain := isPlain_of_validate accepted
  have asked := field_of_lookupUrl plain isLookup
  obtain ⟨host, -, isUrl⟩ := exists_ofHost_of_lookupUrl plain isLookup
  have isQuery : url.query = some (Form.pairLetters "username" username) :=
    isUrl ▸ query_ofHost_lookupLetters host username
  rw [isQuery] at asked
  refine ⟨isUrl ▸ path_ofHost_lookupLetters host username, isUrl ▸ fragment_ofHost_lookupLetters host username,
    ⟨_, isQuery, Form.decode_pairLetters "username" username, asked⟩, ?_⟩
  intro otherBlocked otherText otherDomain otherName other isAccepted isOther differ
  have notAlike : other.toText ≠ url.toText := fun alike => differ
    (username_eq_of_toText_eq (isPlain_of_validate isAccepted) plain isOther isLookup alike)
  exact ⟨fun same => notAlike (congrArg Url.toText same), notAlike⟩

/-- Neither the ampersand nor the plus sign of this username means anything in the query. -/
theorem lookupUrl_reads_back_marks : ∃ url other,
    Profile.lookupUrl "other.example" "a&username=b+c#é" = .ok url ∧
    Profile.lookupUrl "other.example" "a&username=b c#é" = .ok other ∧
    (∃ query, url.query = some query ∧ Form.decode query = [("username", "a&username=b+c#é")]) ∧
    url.fragment = none ∧ other.toText ≠ url.toText := by
  have accepted : validate [] " Other.Example. " = .ok "other.example" := by decide
  have plain := isPlain_of_validate accepted
  have isLookup (username : String) : Profile.lookupUrl "other.example" username =
      .ok (Url.ofHost (.name "other.example".toList) (lookupLetters username)) := by
    rw [lookupUrl_of_isPlain plain (by decide), if_pos (by decide)]
  obtain ⟨-, noFragment, ⟨query, isQuery, onePair, -⟩, differ⟩ :=
    lookupUrl_reads_back accepted (isLookup "a&username=b+c#é")
  have notAlike := (differ [] " Other.Example. " _ _ _ accepted (isLookup "a&username=b c#é") (by decide)).2
  exact ⟨_, _, isLookup _, isLookup _, ⟨query, isQuery, onePair⟩, noFragment, notAlike⟩

end DomainName

end HandleFederation
