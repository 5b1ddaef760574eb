/-
This file says that a validated domain is the host that is contacted. The two URLs at
which an instance is asked are written by putting a domain between `https://` and a
path, and then they are read as any other text is. Read piece by piece, such a text
gives back the domain as its host, because none of the domain's characters ends an
authority, stands for credentials or begins a port; what the host then is, is decided
by the reading of host names alone.
-/

import HandleFederation.Proofs.AcceptedName
import HandleFederation.Proofs.Program
import HandleFederation.Resolution
import Mathlib.Data.List.TakeDrop
import Mathlib.Data.List.TakeWhile

namespace HandleFederation

open Program Text

/-! ### Reading an authority that is a domain -/

namespace Url

theorem span_append_cons {test : Char → Bool} {front : List Char}
    (passes : ∀ letter ∈ front, test letter = true) {stop : Char} (stops : test stop = false) (rest : List Char) :
    (front ++ stop :: rest).span test = (front, stop :: rest) := by
  rw [List.span_eq_takeWhile_dropWhile, List.takeWhile_append_of_pos passes,
    List.dropWhile_append_of_pos passes, List.takeWhile_cons_of_neg (Bool.eq_false_iff.mp stops),
    List.dropWhile_cons_of_neg (Bool.eq_false_iff.mp stops), List.append_nil]

theorem span_of_all {test : Char → Bool} {letters : List Char}
    (passes : ∀ letter ∈ letters, test letter = true) : letters.span test = (letters, []) := by
  rw [List.span_eq_takeWhile_dropWhile, List.takeWhile_eq_self_iff.mpr passes,
    List.dropWhile_eq_nil_iff.mpr passes]

/-- A character that is neither a blank nor a control of ASCII. -/
def isVisible (letter : Char) : Bool :=
  0x20 < letter.toNat

/-- Nothing is dropped from a text without blanks and controls. -/
theorem meaningful_of_visible {letters : List Char}
    (visible : ∀ letter ∈ letters, isVisible letter = true) : meaningful letters = letters := by
  have noBlank : ∀ letter ∈ letters, decide (letter.toNat ≤ 0x20) = false := by
    intro letter member
    have isVisible := of_decide_eq_true (visible letter member)
    exact decide_eq_false (by omega)
  rw [meaningful, stripWhile_eq_self noBlank, List.filter_eq_self]
  intro letter member
  have differs (other : Char) (isHidden : isVisible other = false) : letter ≠ other := by
    rintro rfl
    rw [visible letter member] at isHidden
    cases isHidden
  simp [differs '\t' (by decide), differs '\n' (by decide), differs '\r' (by decide)]

theorem splitHost_of_letters {letters : List Char}
    (isHost : ∀ letter ∈ letters, DomainName.isLetter letter = true) :
    splitHost false letters = (letters, []) := by
  induction letters with
  | nil => rfl
  | cons letter rest inductionHypothesis =>
    have others := inductionHypothesis fun other member => isHost other (List.mem_cons_of_mem _ member)
    have differs : letter ≠ ':' ∧ letter ≠ '[' :=
      DomainName.forall_isLetter (fun letter => letter ≠ ':' ∧ letter ≠ '[') (by decide)
        (isHost letter List.mem_cons_self)
    simp [splitHost, differs.1, beq_eq_false_iff_ne.mpr differs.2, others]

variable {domain : List Char}

/-- The text of an acceptable domain is read as an authority that names a host and nothing else. -/
theorem readAuthority_of_isPlain (plain : DomainName.IsPlain domain) (usual : Option Nat)
    (moreFollows : Bool) :
    readAuthority .hosted usual domain moreFollows =
      (readSpecialHost domain).map fun host => (⟨[], none, host, none⟩, []) := by
  have noAt : splitAtLastAt? domain = none := by
    have passes : ∀ letter ∈ domain.reverse, (letter != '@') = true := by
      intro letter member
      rw [bne_iff_ne]
      rintro rfl
      exact absurd (plain.letters '@' (List.mem_reverse.mp member)) (by decide)
    rw [splitAtLastAt?, span_of_all passes]
  have hostOnly : readHostAndPort .hosted usual domain =
      (readSpecialHost domain).map fun host => (host, none, []) := by
    rw [readHostAndPort, splitHost_of_letters plain.letters]
    simp only [plain.isEmpty_eq, SchemeKind.isSpecial]
    cases readSpecialHost domain with
    | error fault => rfl
    | ok host => rfl
  have nobody : readCredentials [] = ([], none) := rfl
  simp only [readAuthority, noAt, Option.getD_none, nobody, hostOnly, Nat.lt_irrefl, decide_false,
    Bool.and_false, Bool.false_and, Bool.false_eq_true, if_false]
  cases readSpecialHost domain with
  | error fault => rfl
  | ok host => simp [Except.map, bind, Except.bind, pure, Except.pure]

/-- The URL of a text after a host, which starts with the path. -/
def ofHost (host : Host) (letters : List Char) : Url :=
  let (path, query, fragment) := splitParts letters
  ⟨"https".toList, some ⟨[], none, host, none⟩, readPath true [] (dropSlash path),
    query.map (readQuery true), fragment.map readFragment⟩

theorem endsAuthority_of_isLetter {letter : Char} (isLetter : DomainName.isLetter letter = true) :
    endsAuthority true letter = false :=
  DomainName.forall_isLetter (fun letter => endsAuthority true letter = false) (by decide)
    isLetter

theorem readAfterSlashes_of_isPlain (plain : DomainName.IsPlain domain) (rest : List Char) :
    readAfterSlashes "https".toList (domain ++ '/' :: rest) =
      (readSpecialHost domain).map fun host => ofHost host ('/' :: rest) := by
  have kind : SchemeKind.ofScheme "https".toList = .hosted := by decide
  have authorityText : (domain ++ '/' :: rest).span (fun letter => !endsAuthority true letter) =
      (domain, '/' :: rest) := by
    refine span_append_cons (fun letter member => ?_) (by decide) rest
    rw [endsAuthority_of_isLetter (plain.letters letter member)]
    rfl
  simp only [readAfterSlashes, kind, SchemeKind.isSpecial, authorityText,
    readAuthority_of_isPlain plain]
  cases readSpecialHost domain with
  | error fault => rfl
  | ok host => simp [Except.map, bind, Except.bind, pure, Except.pure, ofHost]

/-- A text with an acceptable domain where a URL has its authority is read as a URL of the host that
the domain is read as. -/
theorem readLetters_of_isPlain (plain : DomainName.IsPlain domain) {rest : List Char}
    (visible : ∀ letter ∈ rest, isVisible letter = true) :
    readLetters none ("https://".toList ++ domain ++ '/' :: rest) =
      (readSpecialHost domain).map fun host => ofHost host ('/' :: rest) := by
  have allVisible : ∀ letter ∈ "https://".toList ++ domain ++ '/' :: rest,
      isVisible letter = true := by
    intro letter member
    rw [List.mem_append, List.mem_append, List.mem_cons] at member
    rcases member with (inFront | inDomain) | rfl | inRest
    · have frontVisible : "https://".toList.all isVisible = true := by decide
      exact List.all_eq_true.mp frontVisible letter inFront
    · exact DomainName.forall_isLetter (fun letter => isVisible letter = true) (by decide)
        (plain.letters letter inDomain)
    · decide
    · exact visible letter inRest
  have scheme : readScheme? ("https://".toList ++ domain ++ '/' :: rest) =
      some ("https".toList, '/' :: '/' :: (domain ++ '/' :: rest)) := rfl
  have slashes : ('/' :: '/' :: (domain ++ '/' :: rest)).takeWhile (isSlash true) = ['/', '/'] := by
    obtain ⟨first, others, isCons⟩ := List.exists_cons_of_ne_nil plain.ne_nil
    have noSlash : isSlash true first = false := by
      have member : first ∈ domain := isCons ▸ List.mem_cons_self
      have endsNothing := endsAuthority_of_isLetter (plain.letters first member)
      rw [endsAuthority, Bool.or_eq_false_iff, Bool.or_eq_false_iff] at endsNothing
      exact endsNothing.1.1
    rw [isCons, List.takeWhile_cons_of_pos (by decide), List.takeWhile_cons_of_pos (by decide),
      List.cons_append, List.takeWhile_cons_of_neg (Bool.eq_false_iff.mp noSlash)]
  have kind : SchemeKind.ofScheme "https".toList = .hosted := by decide
  rw [readLetters, meaningful_of_visible allVisible]
  simp only [scheme, readWithScheme, kind, slashes]
  exact readAfterSlashes_of_isPlain plain rest

/-! ### The two documents -/

/-- What it takes for a URL to ask a domain, and nobody else, for the document at a path. -/
structure Asks (domain path : String) (url : Url) : Prop where
  scheme : url.scheme = "https".toList
  noCredentials : url.hasCredentials = false
  noPort : url.port? = none
  host : url.host? = some (.name domain.toList)
  path : url.path.write = path.toList

theorem asks_ofHost {domain path : String} (notEmpty : domain.toList ≠ []) {letters : List Char}
    (isPath : (splitParts letters).1 = path.toList)
    (isNormal : (readPath true [] (dropSlash path.toList)).write = path.toList) :
    (ofHost (.name domain.toList) letters).Asks domain path where
  scheme := rfl
  noCredentials := rfl
  noPort := rfl
  host := by
    obtain ⟨first, others, isCons⟩ := List.exists_cons_of_ne_nil notEmpty
    rw [isCons]
    rfl
  path := by
    rw [← isPath] at isNormal ⊢
    exact isNormal

end Url

/-- The percent-encoded form of a text ends no query and holds no blank. -/
theorem Percent.visible_of_mem_encode {letters : List Char} {letter : Char}
    (member : letter ∈ Percent.encode Percent.isUnreserved letters) :
    Url.isVisible letter = true ∧ letter ≠ '#' :=
  ⟨decide_eq_true (Percent.toNat_of_mem_encode member).1, Percent.ne_of_mem_encode member (by decide)⟩

namespace DomainName

variable {domain : String}

/-- A text with an acceptable domain as its authority is read as a URL if its host can be read. -/
theorem read_eq_map_of_isPlain (plain : IsPlain domain.toList) {text : String} {rest : List Char}
    (spelt : text.toList = "https://".toList ++ domain.toList ++ '/' :: rest)
    (visible : ∀ letter ∈ rest, Url.isVisible letter = true) :
    Url.read text =
      (readSpecialHost domain.toList).map fun host => Url.ofHost host ('/' :: rest) := by
  rw [Url.read, spelt, Url.readLetters_of_isPlain plain visible]

theorem read_of_isPlain (plain : IsPlain domain.toList)
    (notHexadecimal : endsInHexadecimal domain.toList = false) {text : String} {rest : List Char}
    (spelt : text.toList = "https://".toList ++ domain.toList ++ '/' :: rest)
    (visible : ∀ letter ∈ rest, Url.isVisible letter = true) :
    Url.read text =
      if (HostName.toAscii? domain.toList).isSome then
        .ok (Url.ofHost (.name domain.toList) ('/' :: rest))
      else .error .invalidName := by
  rw [read_eq_map_of_isPlain plain spelt visible, readSpecialHost_of_isPlain plain notHexadecimal]
  cases (HostName.toAscii? domain.toList).isSome <;> rfl

theorem visible_declarationPath : ∀ letter ∈ declarationPath.toList.tail, Url.isVisible letter = true := by
  have visible : declarationPath.toList.tail.all Url.isVisible = true := by decide
  exact List.all_eq_true.mp visible

theorem spelt_declaration (domain : String) : ("https://" ++ domain ++ declarationPath).toList =
    "https://".toList ++ domain.toList ++ '/' :: declarationPath.toList.tail := by
  rw [String.toList_append, String.toList_append]
  rfl

/-- The URL of the document in which an instance declares itself. -/
theorem declarationUrl_of_isPlain (plain : IsPlain domain.toList)
    (notHexadecimal : endsInHexadecimal domain.toList = false) :
    declarationUrl domain =
      if (HostName.toAscii? domain.toList).isSome then
        .ok (Url.ofHost (.name domain.toList) declarationPath.toList)
      else .error (.invalidUrl "invalid international domain name") := by
  rw [declarationUrl, read_of_isPlain plain notHexadecimal (spelt_declaration domain)
    visible_declarationPath]
  cases (HostName.toAscii? domain.toList).isSome <;> rfl

/-- What stands after the domain in the URL of a user. -/
def lookupLetters (username : String) : List Char :=
  lookupPath.toList ++ "?username=".toList ++ Percent.encode Percent.isUnreserved username.toList

theorem visible_lookupLetters (username : String) :
    ∀ letter ∈ (lookupLetters username).tail, Url.isVisible letter = true := by
  have frontVisible : (lookupPath.toList ++ "?username=".toList).all Url.isVisible = true := by
    decide
  intro letter member
  rcases List.mem_append.mp (List.mem_of_mem_tail member) with inFront | inQuery
  · exact List.all_eq_true.mp frontVisible letter inFront
  · exact (Percent.visible_of_mem_encode inQuery).1

theorem spelt_lookup (domain username : String) :
    ("https://" ++ domain ++ lookupPath ++ "?username=" ++
      String.ofList (Percent.encode Percent.isUnreserved username.toList)).toList =
      "https://".toList ++ domain.toList ++ '/' :: (lookupLetters username).tail := by
  simp only [String.toList_append, String.toList_ofList, List.append_assoc]
  rfl

theorem lookupUrl_of_isPlain (plain : IsPlain domain.toList)
    (notHexadecimal : endsInHexadecimal domain.toList = false) (username : String) :
    Profile.lookupUrl domain username =
      if (HostName.toAscii? domain.toList).isSome then
        .ok (Url.ofHost (.name domain.toList) (lookupLetters username))
      else .error (.invalidDomain domain) := by
  rw [Profile.lookupUrl, read_of_isPlain plain notHexadecimal (spelt_lookup domain username)
    (visible_lookupLetters username)]
  cases (HostName.toAscii? domain.toList).isSome <;> rfl

/-- Where an instance can be asked for its declaration it can be asked for its users. -/
theorem exists_lookupUrl (plain : IsPlain domain.toList) {first : Url}
    (declaredAt : declarationUrl domain = .ok first) (username : String) :
    ∃ second, Profile.lookupUrl domain username = .ok second := by
  rw [declarationUrl, read_eq_map_of_isPlain plain (spelt_declaration domain)
    visible_declarationPath] at declaredAt
  rw [Profile.lookupUrl, read_eq_map_of_isPlain plain (spelt_lookup domain username)
    (visible_lookupLetters username)]
  cases read : readSpecialHost domain.toList with
  | error fault =>
    rw [read] at declaredAt
    cases declaredAt
  | ok host => exact ⟨_, rfl⟩

theorem splitParts_declarationPath :
    Url.splitParts declarationPath.toList = (declarationPath.toList, none, none) := by
  decide

theorem splitParts_lookupLetters (username : String) : Url.splitParts (lookupLetters username) =
    (lookupPath.toList,
      some ("username=".toList ++ Percent.encode Percent.isUnreserved username.toList), none) := by
  have noFragment : ∀ letter ∈ lookupLetters username, (letter != '#') = true := by
    have frontKept : (lookupPath.toList ++ "?username=".toList).all (· != '#') = true := by decide
    intro letter member
    rcases List.mem_append.mp member with inFront | inQuery
    · exact List.all_eq_true.mp frontKept letter inFront
    · exact bne_iff_ne.mpr (Percent.visible_of_mem_encode inQuery).2
  simp only [Url.splitParts, Url.span_of_all noFragment]
  rfl

/-- A URL that asks an acceptable domain may be requested. -/
theorem checkTarget_of_asks {blocked : List String} {text path : String} {url : Url}
    (accepted : validate blocked text = .ok domain) (asks : url.Asks domain path) :
    Redirect.checkTarget blocked url = .ok () := by
  have again := validate_of_validate accepted
  simp [Redirect.checkTarget, asks.scheme, asks.noCredentials, asks.noPort, asks.host, Host.write,
    again]

end DomainName

/-! ### What a resolution may request -/

namespace Resolution

variable {allowed : Url → Prop}

theorem requestsOnly_isRemembered (key : String) : (isRemembered key).RequestsOnly allowed := by
  refine (RequestsOnly.perform fun _ => nofun).andThen fun reply => ?_
  cases reply <;> exact .done _

theorem requestsOnly_remember (key : String) (seconds : Nat) :
    (remember key seconds).RequestsOnly allowed := by
  unfold remember
  split
  · exact .done _
  · exact (RequestsOnly.perform fun _ => nofun).andThen fun _ => .done _

theorem requestsOnly_timed {Result : Type} {program : Program Result}
    (requestsOnly : program.RequestsOnly allowed) : (timed program).RequestsOnly allowed :=
  (RequestsOnly.perform fun _ => nofun).andThen fun _ => requestsOnly.andThen fun _ =>
    (RequestsOnly.perform fun _ => nofun).andThen fun _ => .done _

variable {username domain : String}
  (declares : ∀ url, declarationUrl domain = .ok url → allowed url)
  (looksUp : ∀ url, Profile.lookupUrl domain (lower username) = .ok url → allowed url)

include declares in
theorem requestsOnly_discover (windows : Windows) :
    (discover windows domain).toProgram.RequestsOnly allowed := by
  have asks : (askDeclaration domain).RequestsOnly allowed := by
    unfold askDeclaration
    split
    · exact .done _
    · rename_i url isDeclaration
      refine (RequestsOnly.perform fun other same => ?_).andThen fun _ => .done _
      cases same
      exact declares url isDeclaration
  refine (requestsOnly_isRemembered _).andThen fun isRemembered => ?_
  cases isRemembered with
  | true => exact .done _
  | false =>
    refine (requestsOnly_timed asks).andThen fun outcome => ?_
    rcases outcome with ⟨fault | declaration, seconds⟩
    · exact (RequestsOnly.perform fun _ => nofun).andThen fun _ =>
        (requestsOnly_remember _ _).andThen fun _ => .done _
    · refine (RequestsOnly.perform fun _ => nofun).andThen fun _ => ?_
      split
      · exact (requestsOnly_remember _ _).andThen fun _ => .done _
      · exact .done _

include looksUp in
theorem requestsOnly_askProfile : (askProfile username domain).toProgram.RequestsOnly allowed := by
  simp only [askProfile, Action.toProgram_bind, Action.toProgram_ofExcept, done_andThen]
  cases isLookup : Profile.lookupUrl domain (lower username) with
  | error failure => exact .done _
  | ok url =>
    have asks : (perform (.request url)).RequestsOnly allowed := by
      refine .perform fun other same => ?_
      cases same
      exact looksUp url isLookup
    exact (requestsOnly_timed asks).andThen fun _ =>
      (RequestsOnly.perform fun _ => nofun).andThen fun _ => .done _

include declares looksUp in
theorem requestsOnly_fetch (windows : Windows) :
    (fetch windows username domain).toProgram.RequestsOnly allowed := by
  refine Action.requestsOnly_bind (requestsOnly_discover declares windows) ?_
  intro declaration
  refine Action.requestsOnly_bind (requestsOnly_askProfile looksUp) ?_
  intro answer
  cases answer with
  | found profile =>
    refine Action.requestsOnly_bind ?_ fun now => .perform fun _ => nofun
    exact (RequestsOnly.perform fun _ => nofun).andThen fun _ => .done _
  | missing => exact (requestsOnly_remember _ _).andThen fun _ => .done _
  | unusable => exact .done _

include declares looksUp in
theorem requestsOnly_fetchOr (windows : Windows) (stale : Option User) :
    (fetchOr windows username domain stale).toProgram.RequestsOnly allowed := by
  refine (requestsOnly_fetch declares looksUp windows).andThen fun outcome => ?_
  split <;> exact .done _

theorem requestsOnly_lookForStub (lifetime : Option Nat) :
    (lookForStub lifetime username domain).toProgram.RequestsOnly allowed := by
  have reads : (readStub lifetime username domain).toProgram.RequestsOnly allowed := by
    unfold readStub
    refine Action.requestsOnly_bind (.perform fun _ => nofun) fun stub => ?_
    cases stub with
    | none => exact .done _
    | some user =>
      refine Action.requestsOnly_bind ?_ fun now => .done _
      exact (RequestsOnly.perform fun _ => nofun).andThen fun _ => .done _
  refine Action.requestsOnly_bind reads fun cached => ?_
  refine Action.requestsOnly_bind ?_ fun _ => .done _
  exact (RequestsOnly.perform fun _ => nofun).andThen fun _ => .done _

include declares looksUp in
/-- A resolution at another instance asks for the two documents of the domain and for nothing else. -/
theorem requestsOnly_resolveRemote (windows : Windows) :
    (resolveRemote windows username domain).toProgram.RequestsOnly allowed := by
  have recalls : (Action.ofProgram do
      return .ok (← isRemembered (missKey username domain)) : Action Bool).toProgram.RequestsOnly
        allowed :=
    (requestsOnly_isRemembered _).andThen fun _ => .done _
  unfold resolveRemote
  refine Action.requestsOnly_bind (requestsOnly_lookForStub _) fun cached => ?_
  split
  · exact .done _
  · refine Action.requestsOnly_bind recalls fun remembered => ?_
    split
    · exact .done _
    · split
      · exact requestsOnly_fetchOr declares looksUp windows _
      · exact requestsOnly_fetchOr declares looksUp windows none

end Resolution

/-! ### Validated domains -/

namespace DomainName

variable {domain : String}

/-- A domain that can be named is asked for its declaration without a query, and for a user with one. -/
theorem exists_urls (plain : IsPlain domain.toList) (notHexadecimal : endsInHexadecimal domain.toList = false)
    (isNamed : (HostName.toAscii? domain.toList).isSome = true) (username : String) :
    ∃ first second, declarationUrl domain = .ok first ∧ Profile.lookupUrl domain username = .ok second ∧
      first.query.isNone = true ∧ second.query.isNone = false := by
  rw [declarationUrl_of_isPlain plain notHexadecimal, lookupUrl_of_isPlain plain notHexadecimal, if_pos isNamed,
    if_pos isNamed]
  refine ⟨_, _, rfl, rfl, ?_, ?_⟩
  · rw [Url.ofHost, splitParts_declarationPath]
    rfl
  · rw [Url.ofHost, splitParts_lookupLetters]
    rfl

theorem asks_of_declarationUrl (plain : IsPlain domain.toList)
    (notHexadecimal : endsInHexadecimal domain.toList = false) {url : Url}
    (isDeclaration : declarationUrl domain = .ok url) : url.Asks domain declarationPath := by
  rw [declarationUrl_of_isPlain plain notHexadecimal] at isDeclaration
  split at isDeclaration
  · cases isDeclaration
    exact Url.asks_ofHost plain.ne_nil (congrArg Prod.fst splitParts_declarationPath) (by decide)
  · cases isDeclaration

theorem asks_of_lookupUrl (plain : IsPlain domain.toList)
    (notHexadecimal : endsInHexadecimal domain.toList = false) {username : String} {url : Url}
    (isLookup : Profile.lookupUrl domain username = .ok url) : url.Asks domain lookupPath := by
  rw [lookupUrl_of_isPlain plain notHexadecimal] at isLookup
  split at isLookup
  · cases isLookup
    exact Url.asks_ofHost plain.ne_nil (congrArg Prod.fst (splitParts_lookupLetters username))
      (by decide)
  · cases isLookup

/-- A validated domain is the host that is contacted, unless a label of foreign characters has it
refused, and then no host is. -/
theorem validated_domain_is_contacted_host {blocked : List String} {text domain : String}
    (accepted : validate blocked text = .ok domain)
    (notHexadecimal : endsInHexadecimal domain.toList = false) :
    ((∀ label ∈ labels domain.toList, HostName.mark.isPrefixOf label = false) →
      (HostName.toAscii? domain.toList).isSome = true) ∧
    ((HostName.toAscii? domain.toList).isSome = true →
      (∃ url, declarationUrl domain = .ok url ∧ url.Asks domain declarationPath) ∧
      ∀ username, ∃ url, Profile.lookupUrl domain username = .ok url ∧ url.Asks domain lookupPath) ∧
    ((HostName.toAscii? domain.toList).isSome = false →
      declarationUrl domain = .error (.invalidUrl "invalid international domain name") ∧
      ∀ username, Profile.lookupUrl domain username = .error (.invalidDomain domain)) ∧
    ∀ windows username,
      (Resolution.resolveRemote windows username domain).toProgram.RequestsOnly fun url =>
        Redirect.checkTarget blocked url = .ok () := by
  have plain := isPlain_of_validate accepted
  have declares := declarationUrl_of_isPlain plain notHexadecimal
  have looksUp := lookupUrl_of_isPlain plain notHexadecimal
  refine ⟨fun unmarked => ?_, fun isNamed => ⟨?_, fun username => ?_⟩,
    fun isRefused => ⟨?_, fun username => ?_⟩, fun windows username => ?_⟩
  · rw [HostName.toAscii?_of_unmarked plain unmarked]
    rfl
  · rw [if_pos isNamed] at declares
    exact ⟨_, declares, asks_of_declarationUrl plain notHexadecimal declares⟩
  · have isLookup := looksUp username
    rw [if_pos isNamed] at isLookup
    exact ⟨_, isLookup, asks_of_lookupUrl plain notHexadecimal isLookup⟩
  · rw [declares, isRefused]
    rfl
  · rw [looksUp username, isRefused]
    rfl
  · refine Resolution.requestsOnly_resolveRemote (fun url isDeclaration => ?_)
      (fun url isLookup => ?_) windows
    · exact checkTarget_of_asks accepted (asks_of_declarationUrl plain notHexadecimal isDeclaration)
    · exact checkTarget_of_asks accepted (asks_of_lookupUrl plain notHexadecimal isLookup)

theorem contacted_host_with_number_in_front :
    validate ["blocked.example"] " 0x7F.Sub-1.Example. " = .ok "0x7f.sub-1.example" ∧
      endsInHexadecimal "0x7f.sub-1.example".toList = false ∧
      (∃ url, declarationUrl "0x7f.sub-1.example" = .ok url ∧
        url.Asks "0x7f.sub-1.example" "/.well-known/federation") ∧
      (∃ url, Profile.lookupUrl "0x7f.sub-1.example" "alice" = .ok url ∧
        url.Asks "0x7f.sub-1.example" "/federation/v1/users/lookup") ∧
      (Resolution.resolveRemote ⟨none, 60, 60⟩ "alice" "0x7f.sub-1.example").toProgram.RequestsOnly
        fun url => Redirect.checkTarget ["blocked.example"] url = .ok () := by
  have accepted : validate ["blocked.example"] " 0x7F.Sub-1.Example. " = .ok "0x7f.sub-1.example" := by
    decide
  have notHexadecimal : endsInHexadecimal "0x7f.sub-1.example".toList = false := by decide
  obtain ⟨isNamed, contacts, -, requests⟩ :=
    validated_domain_is_contacted_host accepted notHexadecimal
  obtain ⟨declares, looksUp⟩ := contacts (isNamed (by decide))
  exact ⟨accepted, notHexadecimal, declares, looksUp "alice", requests ⟨none, 60, 60⟩ "alice"⟩

/-- What follows the mark of this domain spells no characters. -/
theorem toAscii?_misspelt : HostName.toAscii? "xn--z.example".toList = none := by
  decide +kernel

/-- No URL can be made of it. -/
theorem declarationUrl_misspelt :
    declarationUrl "xn--z.example" = .error (.invalidUrl "invalid international domain name") := by
  have accepted : validate [] "xn--z.example" = .ok "xn--z.example" := by decide
  rw [declarationUrl_of_isPlain (isPlain_of_validate accepted) (by decide), toAscii?_misspelt]
  rfl

/-- Two validated domains that are not contacted. What follows the mark of the one spells no
characters, and the other is taken for an address. -/
theorem validated_domains_not_contacted :
    validate [] "xn--z.example" = .ok "xn--z.example" ∧
      declarationUrl "xn--z.example" = .error (.invalidUrl "invalid international domain name") ∧
      Profile.lookupUrl "xn--z.example" "alice" = .error (.invalidDomain "xn--z.example") ∧
      validate [] "127.0x1" = .ok "127.0x1" ∧
      (declarationUrl "127.0x1").map Url.host? = .ok (some (.v4 ⟨127, 0, 0, 1⟩)) := by
  have accepted : validate [] "xn--z.example" = .ok "xn--z.example" := by decide
  have notAsked : Profile.lookupUrl "xn--z.example" "alice" = .error (.invalidDomain "xn--z.example") := by
    rw [lookupUrl_of_isPlain (isPlain_of_validate accepted) (by decide), toAscii?_misspelt]
    rfl
  exact ⟨accepted, declarationUrl_misspelt, notAsked, by decide, by decide +kernel⟩

end DomainName

end HandleFederation
