/-
This file says what the URLs that may be requested look like, in whatever spelling
they were given. The rules on targets look at the host as it is written, after it was
read. So there are two parts: a host that is written as an acceptable domain is
neither kind of address, because no address is written without brackets or without a
number at its end; and a name that reading left as a name is no other notation of an
address. The second is an invariant of reading, which relative references hand on from
the URL they are relative to.
-/

import HandleFederation.Proofs.AcceptedName
import HandleFederation.Proofs.RedirectChain

namespace HandleFederation

open Text

/-! ### Public names -/

namespace DomainName

/-- A name of at least two labels of letters, digits and hyphens that is neither reserved nor blocked
by an entry of the operator, nor lies below such a name. Entries count in normal form. -/
structure IsPublicName (entries : List String) (name : List Char) : Prop where
  atLeastTwo : 2 ≤ (labels name).length
  labelLength : ∀ label ∈ labels name, 1 ≤ label.length ∧ label.length ≤ 63
  labelLetters : ∀ label ∈ labels name, ∀ letter ∈ label, isLabelLetter letter = true
  labelEnds : ∀ label ∈ labels name, label.head? ≠ some '-' ∧ label.getLast? ≠ some '-'
  length : name.length ≤ 253
  outside : ∀ suffix ∈ reservedSuffixes ++ entries.map normalize,
    name ≠ suffix.toList ∧ ¬ '.' :: suffix.toList <:+ name

theorem length_of_isLabel {label : List Char} (isLabel : isLabel label = true) :
    1 ≤ label.length ∧ label.length ≤ 63 := by
  have notEmpty := List.length_pos_iff.mpr (ne_nil_of_isLabel isLabel)
  simp only [DomainName.isLabel, Bool.and_eq_true, decide_eq_true_eq] at isLabel
  exact ⟨notEmpty, isLabel.1.1.1.2⟩

theorem ends_of_isLabel {label : List Char} (isLabel : isLabel label = true) :
    label.head? ≠ some '-' ∧ label.getLast? ≠ some '-' := by
  simp only [DomainName.isLabel, Bool.and_eq_true, bne_iff_ne] at isLabel
  exact ⟨isLabel.1.1.2, isLabel.1.2⟩

theorem length_encode_of_ascii {letters : List Char}
    (ascii : ∀ letter ∈ letters, letter.toNat < 0x80) :
    (Utf8.encode letters).length = letters.length := by
  induction letters with
  | nil => rfl
  | cons letter rest inductionHypothesis =>
    rw [Utf8.encode_cons_of_ascii (ascii letter List.mem_cons_self), List.length_cons,
      List.length_cons,
      inductionHypothesis fun other member => ascii other (List.mem_cons_of_mem _ member)]

theorem not_liesUnder_iff {suffix domain : List Char} :
    ¬ liesUnder suffix domain = true ↔ domain ≠ suffix ∧ ¬ '.' :: suffix <:+ domain := by
  rw [liesUnder, Bool.or_eq_true, beq_iff_eq, List.isSuffixOf_iff_suffix, not_or]

/-- The facts behind acceptance that do not concern single labels. -/
theorem bounds_of_fault? {blocked : List String} {domain : List Char}
    (accepted : fault? blocked domain = none) :
    2 ≤ (labels domain).length ∧ (Utf8.encode domain).length ≤ maxBytes ∧
      ∀ suffix ∈ reservedSuffixes ++ blocked, ¬ liesUnder suffix.toList domain = true := by
  unfold fault? at accepted
  split at accepted
  · cases accepted
  · split at accepted
    · cases accepted
    · rename_i notLonger
      split at accepted
      · cases accepted
      · split at accepted
        · cases accepted
        · split at accepted
          · cases accepted
          · rename_i notSingle
            split at accepted
            · cases accepted
            · split at accepted
              · cases accepted
              · rename_i notReserved
                have notBlocked := Option.map_eq_none_iff.mp accepted
                refine ⟨Nat.le_of_not_lt notSingle, Nat.le_of_not_lt notLonger, fun suffix member => ?_⟩
                rcases List.mem_append.mp member with isReserved | isBlocked
                · exact List.find?_eq_none.mp notReserved suffix isReserved
                · exact List.find?_eq_none.mp notBlocked suffix isBlocked

theorem mem_blockedSuffixes {entries : List String} {suffix : String}
    (member : suffix ∈ entries.map normalize) (notEmpty : suffix ≠ "") :
    suffix ∈ blockedSuffixes entries := by
  refine List.mem_filter.mpr ⟨member, ?_⟩
  rw [Bool.not_eq_true']
  exact Bool.eq_false_iff.mpr fun isEmpty => notEmpty (String.isEmpty_iff.mp isEmpty)

/-- What is accepted is a public name. -/
theorem isPublicName_of_fault? {entries : List String} {domain : List Char}
    (accepted : fault? (blockedSuffixes entries) domain = none) : IsPublicName entries domain := by
  have plain := isPlain_of_fault? accepted
  obtain ⟨atLeastTwo, short, outside⟩ := bounds_of_fault? accepted
  rw [length_encode_of_ascii fun letter member => toNat_lt_of_isLetter (plain.letters letter member)]
    at short
  refine ⟨atLeastTwo, fun label member => length_of_isLabel (plain.labels label member),
    fun label member => isLabelLetter_of_isLabel (plain.labels label member),
    fun label member => ends_of_isLabel (plain.labels label member), short, ?_⟩
  intro suffix member
  by_cases isEmpty : suffix = ""
  · subst isEmpty
    refine ⟨plain.ne_nil, fun endsInDot => ?_⟩
    obtain ⟨front, rfl⟩ := endsInDot
    exact plain.getLast?_ne List.getLast?_concat
  · refine not_liesUnder_iff.mp (outside suffix ?_)
    rcases List.mem_append.mp member with isReserved | isEntry
    · exact List.mem_append_left _ isReserved
    · exact List.mem_append_right _ (mem_blockedSuffixes isEntry isEmpty)

end DomainName

/-! ### No address is acceptable -/

theorem Text.mem_dropWhile {test : Char → Bool} {letters : List Char} {letter : Char}
    (member : letter ∈ letters) (fails : test letter = false) : letter ∈ letters.dropWhile test := by
  rw [← List.takeWhile_append_dropWhile (p := test) (l := letters), List.mem_append] at member
  refine member.resolve_left fun inFront => ?_
  rw [List.mem_takeWhile_imp inFront] at fails
  cases fails

/-- Only characters that satisfy the test are dropped from the ends. -/
theorem Text.mem_stripWhile {test : Char → Bool} {letters : List Char} {letter : Char}
    (member : letter ∈ letters) (fails : test letter = false) : letter ∈ stripWhile test letters := by
  rw [stripWhile, dropTrailing, List.mem_reverse]
  exact mem_dropWhile (List.mem_reverse.mpr (mem_dropWhile member fails)) fails

namespace DomainName

/-- Only blanks and dots are lost in the normal form. -/
theorem mem_normalizeLetters {letters : List Char} {letter : Char} (member : letter ∈ letters)
    (noBlank : isBlank letter = false) (noDot : letter ≠ '.') :
    letter.toLower ∈ normalizeLetters letters := by
  refine List.mem_map_of_mem ?_
  have trimmed : letter ∈ trimLetters letters := mem_stripWhile member noBlank
  rw [dropTrailingDot]
  split
  · rename_i endsInDot
    obtain ⟨front, split⟩ := List.getLast?_eq_some_iff.mp endsInDot
    rw [split, List.mem_append, List.mem_singleton] at trimmed
    rw [split, List.dropLast_concat]
    exact trimmed.resolve_right noDot
  · exact trimmed

/-- Characters of domains are in normal form, but for a dot at the end. -/
theorem normalizeLetters_of_letters {letters : List Char}
    (isDomain : ∀ letter ∈ letters, isLetter letter = true) (noDot : letters.getLast? ≠ some '.') :
    normalizeLetters letters = letters := by
  have noBlank : ∀ letter ∈ letters, isBlank letter = false := fun letter member =>
    forall_isLetter (fun letter => isBlank letter = false) (by decide) (isDomain letter member)
  rw [normalizeLetters, trimLetters, stripWhile_eq_self noBlank, dropTrailingDot, if_neg noDot]
  exact (List.map_congr_left fun letter member => toLower_of_isLetter (isDomain letter member)).trans
    (List.map_id letters)

/-- Digits and dots with a number after the last dot are in normal form, but no acceptable domain. -/
theorem not_isPlain_of_numericTop {front digits : List Char}
    (characters : ∀ letter ∈ front, letter.isDigit = true ∨ letter = '.') (notEmpty : digits ≠ [])
    (areDigits : ∀ digit ∈ digits, digit.isDigit = true) :
    ¬ IsPlain (normalizeLetters (front ++ '.' :: digits)) := by
  have notInside : '.' ∉ digits := fun member => absurd (areDigits '.' member) (by decide)
  have ofDigit (letter : Char) (isDigit : letter.isDigit = true) : isLetter letter = true := by
    simp [isLetter, isLabelLetter, isDigit]
  have isDomain : ∀ letter ∈ front ++ '.' :: digits, isLetter letter = true := by
    intro letter member
    rcases List.mem_append.mp member with inFront | later
    · rcases characters letter inFront with isDigit | rfl
      · exact ofDigit letter isDigit
      · decide
    · rcases List.mem_cons.mp later with rfl | inDigits
      · decide
      · exact ofDigit letter (areDigits letter inDigits)
  have noDot : (front ++ '.' :: digits).getLast? ≠ some '.' := by
    intro endsInDot
    have isLast := List.getLast?_eq_some_getLast notEmpty
    rw [List.getLast?_append, List.getLast?_cons_of_ne_nil notEmpty, isLast, Option.some_or,
      Option.some.injEq] at endsInDot
    exact notInside (endsInDot ▸ List.getLast_mem notEmpty)
  rw [normalizeLetters_of_letters isDomain noDot]
  intro plain
  have top := plain.top
  rw [labels, List.splitOn_append_cons_self, List.splitOn_eq_singleton notInside,
    List.getLast?_concat, Option.getD_some, List.all_eq_true.mpr areDigits] at top
  cases top

end DomainName

namespace Host

/-- An address of version 4 is written with digits and dots, and ends in a number after a dot. -/
theorem exists_write_v4 (address : Ipv4) :
    (∀ letter ∈ (Host.v4 address).write, letter.isDigit = true ∨ letter = '.') ∧
      ∃ front, (Host.v4 address).write = front ++ '.' :: Nat.toDigits 10 address.fourth.toNat := by
  constructor
  · intro letter member
    have isDigit (number : Nat) (inNumber : letter ∈ Nat.toDigits 10 number) :
        letter.isDigit = true ∨ letter = '.' :=
      Or.inl (Nat.isDigit_of_mem_toDigits (by decide) (by decide) inNumber)
    simp only [Host.write, Ipv4.letters, List.cons_append, List.append_assoc, List.mem_append,
      List.mem_cons] at member
    rcases member with first | isDot | second | isDot | third | isDot | fourth
    · exact isDigit _ first
    · exact Or.inr isDot
    · exact isDigit _ second
    · exact Or.inr isDot
    · exact isDigit _ third
    · exact Or.inr isDot
    · exact isDigit _ fourth
  · exact ⟨_, rfl⟩

/-- The last label of an address of version 4 is a number. -/
theorem not_isPlain_v4 (address : Ipv4) :
    ¬ DomainName.IsPlain (DomainName.normalizeLetters (Host.v4 address).write) := by
  obtain ⟨characters, front, split⟩ := exists_write_v4 address
  rw [split] at characters ⊢
  exact DomainName.not_isPlain_of_numericTop
    (fun letter member => characters letter (List.mem_append_left _ member)) Nat.toDigits_ne_nil
    fun digit member => Nat.isDigit_of_mem_toDigits (by decide) (by decide) member

/-- An address of version 6 is written in brackets, which no domain has. -/
theorem not_isPlain_v6 (address : Ipv6) :
    ¬ DomainName.IsPlain (DomainName.normalizeLetters (Host.v6 address).write) := by
  intro plain
  have bracket : '[' ∈ (Host.v6 address).write := List.mem_append_left _ List.mem_cons_self
  have kept := DomainName.mem_normalizeLetters bracket (by decide) (by decide)
  exact absurd (plain.letters _ kept) (by decide)

/-- A host whose written form is acceptable is a name. -/
theorem exists_name_of_isPlain {host : Host}
    (plain : DomainName.IsPlain (DomainName.normalizeLetters host.write)) :
    ∃ letters, host = .name letters := by
  cases host with
  | name letters => exact ⟨letters, rfl⟩
  | v4 address => exact absurd plain (not_isPlain_v4 address)
  | v6 address => exact absurd plain (not_isPlain_v6 address)

/-! ### Names that are no notation of an address -/

/-- A host that is not a name whose last label is a number, in decimal, octal or hexadecimal: such a
name would be another notation of an address. -/
def IsUnambiguous (host : Host) : Prop :=
  ∀ letters, host = .name letters → endsInNumber letters = false

theorem isUnambiguous_of_readBracketed {letters : List Char} {host : Host}
    (given : readBracketed letters = .ok host) : host.IsUnambiguous := by
  unfold readBracketed at given
  split at given
  · cases given
    rintro name ⟨⟩
  · cases given

theorem isUnambiguous_of_readPlainHost {letters : List Char} {host : Host}
    (given : readPlainHost letters = .ok host) : host.IsUnambiguous := by
  unfold readPlainHost at given
  split at given
  · cases given
  · split at given
    · split at given
      · cases given
        rintro name ⟨⟩
      · cases given
    · rename_i noNumber
      cases given
      rintro name ⟨⟩
      exact Bool.eq_false_iff.mpr noNumber

theorem isUnambiguous_of_readSpecialHost {letters : List Char} {host : Host}
    (given : readSpecialHost letters = .ok host) : host.IsUnambiguous := by
  unfold readSpecialHost at given
  split at given
  · exact isUnambiguous_of_readBracketed given
  · split at given
    · exact isUnambiguous_of_readPlainHost given
    · cases given

theorem isUnambiguous_empty : (Host.name []).IsUnambiguous := by
  rintro name ⟨⟩
  decide

end Host

/-- A value that was read after another one was read from a value that was read. -/
theorem exists_of_bind_eq_ok {Fault Value Result : Type} {first : Except Fault Value}
    {rest : Value → Except Fault Result} {result : Result} (given : first >>= rest = .ok result) :
    ∃ value, first = .ok value ∧ rest value = .ok result := by
  cases first with
  | error fault => cases given
  | ok value => exact ⟨value, rfl, given⟩

namespace Url

/-- A URL whose scheme does not have a host read by its own rules, or whose host is unambiguous. -/
def IsUnambiguous (url : Url) : Prop :=
  (SchemeKind.ofScheme url.scheme).isSpecial = true →
    ∀ authority, url.authority = some authority → authority.host.IsUnambiguous

variable {letters rest : List Char} {url : Url}

theorem isUnambiguous_of_readHostAndPort {kind : SchemeKind} (special : kind.isSpecial = true)
    {usual port : Option Nat} {host : Host}
    (given : readHostAndPort kind usual letters = .ok (host, port, rest)) : host.IsUnambiguous := by
  unfold readHostAndPort at given
  dsimp only at given
  split at given
  · cases given
  · obtain ⟨read, isRead, given⟩ := exists_of_bind_eq_ok given
    obtain ⟨portAndRest, -, given⟩ := exists_of_bind_eq_ok given
    cases given
    exact Host.isUnambiguous_of_readSpecialHost isRead

theorem isUnambiguous_of_readAuthority {kind : SchemeKind} (special : kind.isSpecial = true)
    {usual : Option Nat} {moreFollows : Bool} {authority : Authority}
    (given : readAuthority kind usual letters moreFollows = .ok (authority, rest)) :
    authority.host.IsUnambiguous := by
  unfold readAuthority at given
  dsimp only at given
  split at given
  · cases given
  · obtain ⟨⟨host, port, after⟩, isRead, given⟩ := exists_of_bind_eq_ok given
    dsimp only at given
    split at given
    · cases given
    · cases given
      exact isUnambiguous_of_readHostAndPort special isRead

theorem isUnambiguous_of_readAfterSlashes {scheme : List Char}
    (given : readAfterSlashes scheme letters = .ok url) : url.IsUnambiguous := by
  unfold readAfterSlashes at given
  dsimp only at given
  obtain ⟨⟨authority, left⟩, isRead, given⟩ := exists_of_bind_eq_ok given
  cases given
  rintro special _ ⟨⟩
  exact isUnambiguous_of_readAuthority special isRead

theorem isUnambiguous_of_readOrdinary {scheme : List Char}
    (given : readOrdinary scheme letters = .ok url) : url.IsUnambiguous := by
  unfold readOrdinary at given
  split at given
  · exact isUnambiguous_of_readAfterSlashes given
  · cases given
    rintro - _ ⟨⟩

/-- The authority that a file has from the URL it is relative to. -/
theorem isUnambiguous_getD {base : Option Url}
    (isBase : ∀ url ∈ base, (SchemeKind.ofScheme url.scheme).isSpecial = true ∧ url.IsUnambiguous) :
    ((base.bind authority).getD ⟨[], none, .name [], none⟩).host.IsUnambiguous := by
  cases isAuthority : base.bind authority with
  | none => exact Host.isUnambiguous_empty
  | some authority =>
    obtain ⟨url, isUrl, isAuthority⟩ := Option.bind_eq_some_iff.mp isAuthority
    obtain ⟨special, unambiguous⟩ := isBase url isUrl
    exact unambiguous special authority isAuthority

theorem isUnambiguous_of_readFile {base : Option Url}
    (isBase : ∀ url ∈ base, (SchemeKind.ofScheme url.scheme).isSpecial = true ∧ url.IsUnambiguous)
    (given : readFile base letters = .ok url) : url.IsUnambiguous := by
  unfold readFile at given
  dsimp only at given
  split at given
  · split at given
    · split at given
      · cases given
        rintro - _ ⟨⟩
        exact Host.isUnambiguous_empty
      · obtain ⟨host, isRead, given⟩ := exists_of_bind_eq_ok given
        cases given
        rintro - _ ⟨⟩
        dsimp only
        split
        · exact Host.isUnambiguous_empty
        · exact Host.isUnambiguous_of_readSpecialHost isRead
    · split at given
      · cases given
        rintro - _ ⟨⟩
        exact Host.isUnambiguous_empty
      · cases given
        rintro - _ ⟨⟩
        exact isUnambiguous_getD isBase
  · cases given
    rintro - _ ⟨⟩
    exact isUnambiguous_getD isBase

theorem isUnambiguous_of_readRelative {base : Url} (isBase : base.IsUnambiguous)
    (given : readRelative base letters = .ok url) : url.IsUnambiguous := by
  unfold readRelative at given
  dsimp only at given
  split at given
  · cases given
    exact isBase
  · split at given
    · split at given
      · split at given
        · split at given
          · exact isUnambiguous_of_readAfterSlashes given
          · exact isUnambiguous_of_readAfterSlashes given
        · cases given
          exact isBase
      · cases given
        exact isBase
    · cases given
      exact isBase

theorem isUnambiguous_of_readWithScheme {base : Option Url} {scheme : List Char}
    (isBase : ∀ url ∈ base, url.IsUnambiguous)
    (given : readWithScheme base scheme letters = .ok url) : url.IsUnambiguous := by
  unfold readWithScheme at given
  split at given
  · rename_i isFile
    refine isUnambiguous_of_readFile (fun other member => ?_) given
    obtain ⟨isOther, sameScheme⟩ := Option.mem_filter_iff.mp member
    rw [beq_iff_eq.mp sameScheme, isFile]
    exact ⟨rfl, isBase other isOther⟩
  · exact isUnambiguous_of_readOrdinary given
  · dsimp only at given
    split at given
    · rename_i other
      split at given
      · exact isUnambiguous_of_readRelative (isBase other rfl) given
      · exact isUnambiguous_of_readAfterSlashes given
    · exact isUnambiguous_of_readAfterSlashes given

theorem isUnambiguous_of_readWithoutScheme {base : Option Url}
    (isBase : ∀ url ∈ base, url.IsUnambiguous)
    (given : readWithoutScheme base letters = .ok url) : url.IsUnambiguous := by
  unfold readWithoutScheme at given
  split at given
  · cases given
  · rename_i other
    have unambiguous := isBase other rfl
    split at given
    · cases given
      exact unambiguous
    · split at given
      · cases given
      · split at given
        · rename_i isFile
          refine isUnambiguous_of_readFile ?_ given
          rintro _ ⟨⟩
          rw [isFile]
          exact ⟨rfl, unambiguous⟩
        · exact isUnambiguous_of_readRelative unambiguous given

theorem isUnambiguous_of_readLetters {base : Option Url} (isBase : ∀ url ∈ base, url.IsUnambiguous)
    (given : readLetters base letters = .ok url) : url.IsUnambiguous := by
  unfold readLetters at given
  dsimp only at given
  split at given
  · exact isUnambiguous_of_readWithScheme isBase given
  · exact isUnambiguous_of_readWithoutScheme isBase given

/-- A URL that was read from a text, on its own or relative to such a URL. -/
inductive IsRead : Url → Prop
  | read (text : String) (url : Url) (given : Url.read text = .ok url) : IsRead url
  | join (base : Url) (text : String) (url : Url) (isBase : IsRead base)
      (given : base.join text = .ok url) : IsRead url

/-- No host that was read is a name that could be taken for an address. -/
theorem IsRead.isUnambiguous (isRead : IsRead url) : url.IsUnambiguous := by
  induction isRead with
  | read text url given => exact isUnambiguous_of_readLetters (by rintro _ ⟨⟩) given
  | join base text url _ given inductionHypothesis =>
    refine isUnambiguous_of_readLetters ?_ given
    rintro _ ⟨⟩
    exact inductionHypothesis

/-! ### Permitted targets -/

/-- The port that a URL leads to: the one it names, or the usual one of its scheme. -/
def effectivePort? (url : Url) : Option Nat :=
  url.port?.or (hostedSchemes.lookup url.scheme)

end Url

namespace Redirect

/-- A URL that leads to the usual port of a public name by `https`, on nobody's behalf. -/
structure IsPublicTarget (entries : List String) (url : Url) : Prop where
  scheme : url.scheme = "https".toList
  anonymous : ∀ authority, url.authority = some authority →
    authority.username = [] ∧ authority.password = none
  port : url.effectivePort? = some 443
  host : ∃ letters, url.host? = some (.name letters) ∧
    DomainName.IsPublicName entries (DomainName.normalizeLetters letters)

/-- The rules in one piece: the scheme, nobody who asks, no port, and the host as it is written. -/
theorem isPermitted_iff {blocked : List String} {url : Url} :
    IsPermitted blocked url ↔ url.scheme = "https".toList ∧ url.hasCredentials = false ∧
      url.port? = none ∧ ∃ host, url.host? = some host ∧
        DomainName.fault? blocked (DomainName.normalizeLetters host.write) = none := by
  unfold IsPermitted checkTarget
  by_cases scheme : url.scheme = "https".toList
  · rw [if_neg fun differs => bne_iff_ne.mp differs scheme]
    cases url.hasCredentials with
    | true => exact iff_of_false (by rintro ⟨⟩) fun all => absurd all.2.1 (by decide)
    | false =>
      rw [if_neg (by decide)]
      cases url.port? with
      | some port => exact iff_of_false (by rintro ⟨⟩) fun all => absurd all.2.2.1 (by simp)
      | none =>
        cases url.host? with
        | none => exact iff_of_false (by rintro ⟨⟩) (by rintro ⟨-, -, -, host, ⟨⟩, -⟩)
        | some host =>
          simp only [scheme, true_and, Option.some.injEq, exists_eq_left']
          cases checked : DomainName.validate blocked (String.ofList host.write) with
          | error fault =>
            refine iff_of_false (by rintro ⟨⟩) fun noFault => ?_
            rw [DomainName.validate, String.toList_ofList, noFault] at checked
            cases checked
          | ok domain =>
            have noFault := (DomainName.validate_eq_ok_iff.mp checked).1
            rw [String.toList_ofList] at noFault
            exact iff_of_true rfl noFault
  · rw [if_pos (bne_iff_ne.mpr scheme)]
    exact iff_of_false (by rintro ⟨⟩) fun all => scheme all.1

theorem anonymous_of_hasCredentials {url : Url} (noCredentials : url.hasCredentials = false)
    {authority : Authority} (isAuthority : url.authority = some authority) :
    authority.username = [] ∧ authority.password = none := by
  rw [Url.hasCredentials, isAuthority] at noCredentials
  simpa using noCredentials

/-- Every permitted URL is a public target. -/
theorem isPublicTarget_of_isPermitted {entries : List String} {url : Url}
    (permitted : IsPermitted (DomainName.blockedSuffixes entries) url) :
    IsPublicTarget entries url := by
  obtain ⟨scheme, noCredentials, noPort, host, isHost, accepted⟩ := isPermitted_iff.mp permitted
  obtain ⟨letters, rfl⟩ := Host.exists_name_of_isPlain (DomainName.isPlain_of_fault? accepted)
  refine ⟨scheme, fun _ => anonymous_of_hasCredentials noCredentials, ?_, letters, isHost,
    DomainName.isPublicName_of_fault? accepted⟩
  rw [Url.effectivePort?, noPort, scheme]
  rfl

/-- A URL whose host is an address is refused. -/
theorem exists_refusal_of_address {blocked : List String} {url : Url} {host : Host}
    (isHost : url.host? = some host)
    (isAddress : ∀ letters, host ≠ .name letters) :
    ∃ fault, checkTarget blocked url = .error fault := by
  cases checked : checkTarget blocked url with
  | error fault => exact ⟨fault, rfl⟩
  | ok _ =>
    obtain ⟨-, -, -, other, isOther, accepted⟩ := isPermitted_iff.mp checked
    cases isHost.symm.trans isOther
    obtain ⟨letters, isName⟩ := Host.exists_name_of_isPlain (DomainName.isPlain_of_fault? accepted)
    exact absurd isName (isAddress letters)

/-- The name of a public target that was read is no notation of an address. -/
theorem endsInNumber_of_isRead {entries : List String} {url : Url} (isRead : url.IsRead)
    (isPublic : IsPublicTarget entries url) {letters : List Char}
    (isName : url.host? = some (.name letters)) : endsInNumber letters = false := by
  have special : (SchemeKind.ofScheme url.scheme).isSpecial = true := by
    rw [isPublic.scheme]
    decide
  obtain ⟨authority, isAuthority, named⟩ := Option.bind_eq_some_iff.mp isName
  refine isRead.isUnambiguous special authority isAuthority letters ?_
  split at named
  · cases named
  · exact Option.some.inj named

/-- Whatever its spelling, a URL that may be requested leads by `https` and port 443, on nobody's
behalf, to a public name that is neither reserved nor blocked, and that is no notation of an address
when the URL was read. A URL whose host is an address is refused. The next URL of a chain of redirects
is read relative to the one before it and is held to the same. -/
theorem permitted_targets_are_public (entries : List String) :
    let blocked := DomainName.blockedSuffixes entries
    (∀ url, IsPermitted blocked url → IsPublicTarget entries url) ∧
    (∀ url, url.IsRead → IsPermitted blocked url →
      ∃ letters, url.host? = some (.name letters) ∧ endsInNumber letters = false) ∧
    (∀ url address, url.host? = some (.v4 address) → ∃ fault, checkTarget blocked url = .error fault) ∧
    (∀ url address, url.host? = some (.v6 address) → ∃ fault, checkTarget blocked url = .error fault) ∧
    (∀ followed base location next, nextHop blocked followed base location = .ok next →
      base.join location = .ok next ∧ IsPublicTarget entries next ∧
        (base.IsRead → next.IsRead ∧
          ∃ letters, next.host? = some (.name letters) ∧ endsInNumber letters = false)) := by
  have named : ∀ url : Url, url.IsRead → IsPublicTarget entries url →
      ∃ letters, url.host? = some (.name letters) ∧ endsInNumber letters = false := by
    intro url isRead isPublic
    obtain ⟨letters, isName, -⟩ := isPublic.host
    exact ⟨letters, isName, endsInNumber_of_isRead isRead isPublic isName⟩
  refine ⟨fun url => isPublicTarget_of_isPermitted, fun url isRead permitted =>
    named url isRead (isPublicTarget_of_isPermitted permitted), fun url address isHost =>
    exists_refusal_of_address isHost (by simp), fun url address isHost =>
    exists_refusal_of_address isHost (by simp), ?_⟩
  intro followed base location next given
  obtain ⟨-, joined, permitted⟩ := nextHop_eq_ok_iff.mp given
  have isPublic := isPublicTarget_of_isPermitted permitted
  refine ⟨joined, isPublic, fun isRead => ?_⟩
  have nextIsRead := Url.IsRead.join base location next isRead joined
  exact ⟨nextIsRead, named next nextIsRead isPublic⟩

end Redirect

end HandleFederation
