import RowQuery.Proofs.Naming
import RowQuery.Proofs.PercentCoding
import RowQuery.Server.Server

/-! URLs of servers, written and read again. User and password are encoded, so no character of
theirs ends a part of the URL, and both come back as they were. The name of the database is written
as it is but read like the rest of a URL: what comes back is the part of it that a path keeps,
decoded. -/

namespace RowQuery

namespace Text

/-! ### Digits -/

variable {c : Char} {cs : List Char}

theorem digitValue?_of_isDigit (h : c.isDigit = true) : digitValue? c = some (c.toNat - 48) := by
  have hc := isDigit_iff.mp h
  have hmod : (c.toNat - 48) % 10 = c.toNat - 48 := Nat.mod_eq_of_lt (by omega)
  rw [digitValue?, digitIntervals, List.find?_cons_of_pos (by simp [hc])]
  exact congrArg some hmod

theorem digitRun_of_isDigit (hne : cs ≠ []) (h : ∀ c ∈ cs, c.isDigit = true) :
    digitRun digitValue? cs = some (cs.map fun c => c.toNat - 48) := by
  induction cs with
  | nil => exact absurd rfl hne
  | cons c cs ih =>
    obtain ⟨hc, hcs⟩ := List.forall_mem_cons.mp h
    have hv := digitValue?_of_isDigit hc
    cases cs with
    | nil => rw [digitRun, hv]; rfl
    | cons d cs =>
      have hd : d ≠ '_' := by
        rintro rfl
        exact absurd (hcs '_' List.mem_cons_self) (by decide)
      rw [digitRun, hv]
      simp only [if_neg hd, ih (List.cons_ne_nil d cs) hcs]
      rfl

/-- A text of digits that reads as a number has not too many of them, and they write it. -/
theorem toInt?_of_isDigit {s : String} {n : Int} (h : ∀ c ∈ s.toList, c.isDigit = true)
    (hn : toInt? s = some n) : s.toList.length ≤ maxDigits ∧
      n = ofDigits (s.toList.map fun c => c.toNat - 48) := by
  have hblank : ∀ c ∈ s.toList, (isBlank c && !isSeparator c) = false := by
    intro c hc
    have hd := isDigit_iff.mp (h c hc)
    have : isBlank c = false := by
      simp only [isBlank, Bool.or_eq_false_iff, Bool.and_eq_false_iff, decide_eq_false_iff_not,
        beq_eq_false_iff_ne]
      omega
    rw [this, Bool.false_and]
  have hsign : cutSign s.toList = (false, s.toList) := by
    unfold cutSign
    split
    · rename_i hs
      exact absurd (h '-' (hs ▸ List.mem_cons_self)) (by decide)
    · rename_i hs
      exact absurd (h '+' (hs ▸ List.mem_cons_self)) (by decide)
    · rfl
  rw [toInt?, trimNumber, stripChars_of_forall hblank, signedInt?, hsign] at hn
  by_cases hne : s.toList = []
  · rw [hne] at hn
    contradiction
  · simp only [digitRun_of_isDigit hne h, List.length_map, Bool.false_eq_true, if_false] at hn
    split_ifs at hn with hlen
    exact ⟨Nat.le_of_not_lt hlen, (Option.some.inj hn).symm⟩

end Text

/-! ### Reading a URL in parts -/

namespace Url

/-- A character that may stand in an authority: it ends none, opens no address, and has no forms
that look like another. -/
def isAuthorityChar (c : Char) : Bool :=
  c.toNat < 128 && !endsAuthority c && c != '[' && c != ']' && c != '\t' && c != '\r' && c != '\n'

/-- What is left of a text without tabs and line ends. -/
def kept (cs : List Char) : List Char := cs.filter fun c => c != '\t' && c != '\r' && c != '\n'

/-- The part of a text that stays in the path: what stands before a query or a fragment. -/
def pathOf (cs : List Char) : List Char := (Text.cutChars '?' (Text.cutChars '#' cs).1).1

theorem kept_of_forall {cs : List Char} (h : ∀ c ∈ cs, isAuthorityChar c = true) :
    kept cs = cs := by
  refine List.filter_eq_self.mpr fun c hc => ?_
  have hc := h c hc
  simp only [isAuthorityChar, Bool.and_eq_true] at hc
  simp [hc]

theorem not_mem_of_forall {cs : List Char} (h : ∀ c ∈ cs, isAuthorityChar c = true) {c : Char}
    (hc : isAuthorityChar c = false) : c ∉ cs := by
  intro hmem
  rw [h c hmem] at hc
  contradiction

theorem cutAuthority_append {authority rest : List Char}
    (h : ∀ c ∈ authority, isAuthorityChar c = true) :
    cutAuthority ('/' :: '/' :: (authority ++ '/' :: rest)) = (authority, '/' :: rest) := by
  have hends : ∀ c ∈ authority, (!endsAuthority c) = true := by
    intro c hc
    have hc := h c hc
    simp only [isAuthorityChar, Bool.and_eq_true] at hc
    exact hc.1.1.1.1.1.2
  have htake : (('/' :: rest).takeWhile fun c => !endsAuthority c) = [] := rfl
  have hdrop : (('/' :: rest).dropWhile fun c => !endsAuthority c) = '/' :: rest := rfl
  rw [cutAuthority, List.takeWhile_append_of_pos hends, List.dropWhile_append_of_pos hends, htake,
    hdrop, List.append_nil]

theorem authorityFine_of_forall {authority : List Char}
    (h : ∀ c ∈ authority, isAuthorityChar c = true) : authorityFine authority = true := by
  have ho : authority.contains '[' = false := by
    simpa using not_mem_of_forall h (c := '[') (by decide)
  have hc : authority.contains ']' = false := by
    simpa using not_mem_of_forall h (c := ']') (by decide)
  have hl : (authority.any fun c => lookalikes.contains c.toNat) = false := by
    rw [List.any_eq_false]
    intro c hc
    have hlow : c.toNat < 128 := by
      have hc := h c hc
      simp only [isAuthorityChar, Bool.and_eq_true, decide_eq_true_eq] at hc
      exact hc.1.1.1.1.1.1
    simp only [lookalikes, List.contains_iff_mem, List.mem_cons, List.not_mem_nil, or_false]
    omega
  rw [authorityFine, ho, hc, hl]
  rfl

/-- A text with an authority that ends where its path starts is cut there. -/
theorem ofString?_written {authority rest : List Char}
    (h : ∀ c ∈ authority, isAuthorityChar c = true) :
    ofString? (String.ofList ("mysql://".toList ++ authority ++ '/' :: rest)) =
      some { scheme := "mysql".toList, authority, path := '/' :: pathOf (kept rest) } := by
  have hkept : kept ("mysql://".toList ++ authority ++ '/' :: rest) =
      "mysql://".toList ++ authority ++ '/' :: kept rest := by
    rw [kept, List.filter_append, List.filter_append]
    change _ ++ kept authority ++ _ = _
    rw [kept_of_forall h]
    rfl
  have hscheme : cutScheme ("mysql://".toList ++ authority ++ '/' :: kept rest) =
      ("mysql".toList, '/' :: '/' :: (authority ++ '/' :: kept rest)) := rfl
  have hpath : (Text.cutChars '?' (Text.cutChars '#' ('/' :: kept rest)).1).1 =
      '/' :: pathOf (kept rest) := rfl
  have hcs : ((("mysql://".toList ++ authority ++ '/' :: rest).dropWhile
      fun c => c.toNat ≤ 32).filter fun c => c != '\t' && c != '\r' && c != '\n') =
        "mysql://".toList ++ authority ++ '/' :: kept rest := hkept
  rw [ofString?, String.toList_ofList]
  simp only [hcs, hscheme, cutAuthority_append h, authorityFine_of_forall h, hpath, ↓reduceIte]

end Url

namespace Server

open Text

/-! ### A written URL -/

def isHostChar (c : Char) : Bool := c.isLower || c.isDigit || c == '.' || c == '-'

/-- Names of hosts and their numbers: small letters, digits, points and hyphens. -/
structure IsHost (host : String) : Prop where
  nonempty : host ≠ ""
  chars : ∀ c ∈ host.toList, isHostChar c = true

/-- The text of a port is digits, and the number they write is a port's. -/
structure IsPort (port : String) (n : Int) : Prop where
  digits : ∀ c ∈ port.toList, c.isDigit = true
  value : toInt? port = some n
  positive : 1 ≤ n
  bounded : n ≤ 65535

/-- Names without a character that has a meaning of its own in the rest of a URL. -/
structure IsDatabaseName (database : String) : Prop where
  nonempty : database ≠ ""
  chars : ∀ c ∈ database.toList, c ∉ ['/', '?', '#', '%', '\t', '\r', '\n']

/-- Names that a URL keeps as they are: nothing in them ends the path, is dropped or decoded. -/
structure IsKeptName (database : String) : Prop where
  nonempty : database ≠ ""
  chars : ∀ c ∈ database.toList, c ∉ ['/', '?', '#', '\t', '\r', '\n']
  unescaped : ¬ HasEscape database.toList

theorem IsDatabaseName.isKeptName {database : String} (h : IsDatabaseName database) :
    IsKeptName database where
  nonempty := h.nonempty
  chars c hc hmem := h.chars c hc (by simp only [List.mem_cons] at hmem ⊢; tauto)
  unescaped := by
    rintro ⟨a, b, hesc, -⟩
    exact h.chars '%' (hesc.subset List.mem_cons_self) (by decide)

/-- User and password as they stand before the at sign. -/
def writtenCredentials (user password : String) : List Char :=
  (percentEncode user).toList ++
    if password.isEmpty then [] else ':' :: (percentEncode password).toList

/-- The part of a path that is taken for the name of a database. -/
def readName (database : String) : List Char :=
  stripChars (· == '/') ('/' :: Url.pathOf (Url.kept database.toList))

section Written

variable {user password host port database : String} {n : Int} {c : Char}

theorem isUnreserved_of_isHostChar (h : isHostChar c = true) : isUnreserved c = true := by
  simp only [isHostChar, Bool.or_eq_true, beq_iff_eq] at h
  rcases h with ((h | h) | rfl) | rfl
  · simp [isUnreserved, isAlphanum_iff, h]
  · simp [isUnreserved, isAlphanum_iff, h]
  · rfl
  · rfl

theorem toLower_of_isHostChar (h : isHostChar c = true) : c.toLower = c := by
  refine toLower_of_not_isUpper fun hu => ?_
  rw [isUpper_iff] at hu
  simp only [isHostChar, Bool.or_eq_true, beq_iff_eq, isLower_iff, isDigit_iff] at h
  rcases h with ((h | h) | rfl) | rfl
  · omega
  · omega
  · revert hu
    decide
  · revert hu
    decide

theorem isAuthorityChar_of_isUnreserved (h : isUnreserved c = true) :
    Url.isAuthorityChar c = true := by
  have hne : ∀ {d : Char}, isUnreserved d = false → c ≠ d := by
    rintro d hd rfl
    exact absurd (hd.symm.trans h) Bool.false_ne_true
  simp [Url.isAuthorityChar, Url.endsAuthority, ascii_of_isUnreserved h, hne (d := '/') rfl,
    hne (d := '?') rfl, hne (d := '#') rfl, hne (d := '[') rfl, hne (d := ']') rfl,
    hne (d := '\t') rfl, hne (d := '\r') rfl, hne (d := '\n') rfl]

theorem IsHost.unreserved (h : IsHost host) : ∀ c ∈ host.toList, isUnreserved c = true :=
  fun c hc => isUnreserved_of_isHostChar (h.chars c hc)

theorem IsPort.unreserved (h : IsPort port n) : ∀ c ∈ port.toList, isUnreserved c = true := by
  intro c hc
  simp [isUnreserved, isAlphanum_iff, h.digits c hc]

/-! ### The written authority -/

theorem mem_writtenCredentials (hc : c ∈ writtenCredentials user password) :
    isUnreserved c = true ∨ c = '%' ∨ c = ':' := by
  rcases List.mem_append.mp hc with hc | hc
  · exact (mem_percentEncode hc).imp_right .inl
  · split at hc
    · exact absurd hc List.not_mem_nil
    · rcases List.mem_cons.mp hc with rfl | hc
      · exact .inr (.inr rfl)
      · exact (mem_percentEncode hc).imp_right .inl

/-- The authority of a written URL. -/
def writtenAuthority (user password host port : String) : List Char :=
  writtenCredentials user password ++ '@' :: (host.toList ++ ':' :: port.toList)

theorem url_eq (user password host port database : String) :
    url user password host port database = String.ofList ("mysql://".toList ++
      writtenAuthority user password host port ++ '/' :: database.toList) := by
  apply String.toList_injective
  rw [String.toList_ofList, url, writtenAuthority, writtenCredentials]
  split <;> simp

theorem isAuthorityChar_of_mem_written (hh : IsHost host) (hp : IsPort port n)
    (hc : c ∈ writtenAuthority user password host port) : Url.isAuthorityChar c = true := by
  rcases List.mem_append.mp hc with hc | hc
  · rcases mem_writtenCredentials hc with hc | rfl | rfl
    · exact isAuthorityChar_of_isUnreserved hc
    · rfl
    · rfl
  · rcases List.mem_cons.mp hc with rfl | hc
    · rfl
    rcases List.mem_append.mp hc with hc | hc
    · exact isAuthorityChar_of_isUnreserved (hh.unreserved c hc)
    rcases List.mem_cons.mp hc with rfl | hc
    · rfl
    · exact isAuthorityChar_of_isUnreserved (hp.unreserved c hc)

theorem not_mem_of_unreserved {cs : List Char} (h : ∀ c ∈ cs, isUnreserved c = true)
    (hc : isUnreserved c = false) : c ∉ cs := by
  intro hmem
  exact absurd (hc.symm.trans (h c hmem)) Bool.false_ne_true

theorem not_mem_hostPort (hh : IsHost host) (hp : IsPort port n) (hc : isUnreserved c = false)
    (hne : c ≠ ':') : c ∉ host.toList ++ ':' :: port.toList := by
  simp only [List.mem_append, List.mem_cons, not_or]
  exact ⟨not_mem_of_unreserved hh.unreserved hc, hne, not_mem_of_unreserved hp.unreserved hc⟩

theorem hostAndPort_written (hh : IsHost host) (hp : IsPort port n) :
    cutLastChars '@' (writtenAuthority user password host port) =
      (some (writtenCredentials user password), host.toList ++ ':' :: port.toList) :=
  cutLastChars_append_cons _ (not_mem_hostPort hh hp rfl (by decide))

/-- The URL that a written one is cut into. -/
def writtenParts (user password host port database : String) : Url where
  scheme := "mysql".toList
  authority := writtenAuthority user password host port
  path := '/' :: Url.pathOf (Url.kept database.toList)

theorem ofString?_url (hh : IsHost host) (hp : IsPort port n) (user password database : String) :
    Url.ofString? (url user password host port database) =
      some (writtenParts user password host port database) := by
  rw [url_eq]
  exact Url.ofString?_written fun c hc => isAuthorityChar_of_mem_written hh hp hc

theorem credentials_written (hh : IsHost host) (hp : IsPort port n)
    (user password database : String) :
    decoded (writtenParts user password host port database).credentials.1 = user ∧
      decoded (writtenParts user password host port database).credentials.2 = password := by
  have hcolon : ':' ∉ (percentEncode user).toList :=
    not_mem_percentEncode user rfl (by decide)
  have hdecoded : ∀ s, decoded (percentEncode s).toList = s := by
    intro s
    rw [decoded, String.ofList_toList, percentDecode_percentEncode]
  simp only [Url.credentials, writtenParts, hostAndPort_written hh hp, writtenCredentials]
  split
  · rename_i hempty
    rw [List.append_nil, cutChars_of_not_mem hcolon, String.isEmpty_iff.mp hempty]
    exact ⟨hdecoded user, rfl⟩
  · rw [cutChars_append_cons hcolon]
    exact ⟨hdecoded user, hdecoded password⟩

theorem hostPort_written (hh : IsHost host) (hp : IsPort port n) :
    (writtenParts user password host port database).hostPort = (host.toList, port.toList) := by
  have hbracket : '[' ∉ host.toList ++ ':' :: port.toList :=
    not_mem_hostPort hh hp rfl (by decide)
  have hcolon : ':' ∉ host.toList := not_mem_of_unreserved hh.unreserved rfl
  simp only [Url.hostPort, Url.hostAndPort, writtenParts, hostAndPort_written hh hp,
    cutChars_of_not_mem hbracket, cutChars_append_cons hcolon, Option.getD_some]

theorem host_written (hh : IsHost host) (hp : IsPort port n) :
    (writtenParts user password host port database).host = host.toList := by
  have hzone : '%' ∉ host.toList := not_mem_of_unreserved hh.unreserved rfl
  have hsmall : host.toList.map Char.toLower = host.toList.map id :=
    List.map_congr_left fun c hc => toLower_of_isHostChar (hh.chars c hc)
  simp only [Url.host, hostPort_written hh hp, cutChars_of_not_mem hzone]
  rw [lowerChars_of_ascii (fun c hc => ascii_of_isUnreserved (hh.unreserved c hc)), hsmall,
    List.map_id]

theorem port?_written (hh : IsHost host) (hp : IsPort port n) :
    (writtenParts user password host port database).port? = some n.toNat := by
  obtain ⟨hlen, hn⟩ := toInt?_of_isDigit hp.digits hp.value
  have hall : port.toList.all Char.isDigit = true := List.all_eq_true.mpr hp.digits
  have hbound := hp.bounded
  have hcond : (!port.toList.all Char.isDigit || maxDigits < port.toList.length) = false := by
    simp [hall, hlen]
  have hvalue : ofDigits (port.toList.map fun c => c.toNat - 48) = n.toNat := by omega
  simp only [Url.port?, hostPort_written hh hp, hvalue]
  rw [hcond, if_neg Bool.false_ne_true, if_pos (by omega)]

/-- How a written URL is read: user, password, host and port come back as they were, and what a
path keeps of the name of the database is taken for it. -/
theorem ofUrl_url (hh : IsHost host) (hp : IsPort port n) (user password database : String) :
    ofUrl (.text (url user password host port database)) =
      if (readName database).isEmpty || (readName database).contains '/' then
        refuse (.urlDatabase (url user password host port database))
      else .ok { user, database := decoded (readName database), password, host, port := n } := by
  obtain ⟨hu, hw⟩ := credentials_written hh hp user password database
  have hwritten : (url user password host port database).isEmpty = false := by
    rw [← Bool.not_eq_true, String.isEmpty_iff, url_eq]
    exact fun he => by simpa using congrArg String.toList he
  have hhost : (host.toList).isEmpty = false := by
    simpa using hh.nonempty
  have hport : n.toNat ≠ 0 ∧ (n.toNat : Int) = n := by
    have := hp.positive
    omega
  have hscheme : (!schemes.contains (String.ofList
      (writtenParts user password host port database).scheme)) = false := by
    simp [writtenParts, schemes]
  have hname : stripChars (· == '/') (writtenParts user password host port database).path =
      readName database := rfl
  rw [ofUrl, hwritten, if_neg Bool.false_ne_true, ofString?_url hh hp]
  simp only [hu, hw, host_written hh hp, port?_written hh hp, hhost, hscheme, hname,
    Bool.false_eq_true, if_false, if_neg hport.1, hport.2, String.ofList_toList]

/-! ### The name of the database -/

theorem readName_eq (database : String) :
    readName database = stripChars (· == '/') (Url.pathOf (Url.kept database.toList)) :=
  stripChars_cons_of_pos rfl

theorem readName_sublist (database : String) : (readName database).Sublist database.toList := by
  rw [readName_eq]
  exact (stripChars_sublist _ _).trans ((cutChars_sublist '?' _).trans
    ((cutChars_sublist '#' _).trans List.filter_sublist))

theorem not_mem_readName (hc : c ∈ ['?', '#', '\t', '\r', '\n']) : c ∉ readName database := by
  rw [readName_eq]
  intro hmem
  have hpath := (stripChars_sublist _ _).subset hmem
  have hcut := (cutChars_sublist '?' _).subset hpath
  have hkept := (List.mem_filter.mp ((cutChars_sublist '#' _).subset hcut)).2
  simp only [List.mem_cons, List.not_mem_nil, or_false] at hc
  rcases hc with rfl | rfl | rfl | rfl | rfl
  · exact not_mem_cutChars '?' _ hpath
  · exact not_mem_cutChars '#' _ hcut
  all_goals exact absurd hkept (by decide)

theorem IsKeptName.readName (h : IsKeptName database) : readName database = database.toList := by
  have hkept : Url.kept database.toList = database.toList := by
    refine List.filter_eq_self.mpr fun c hc => ?_
    have := h.chars c hc
    simp_all
  have hpath : Url.pathOf database.toList = database.toList := by
    rw [Url.pathOf, cutChars_of_not_mem fun hc => h.chars _ hc (by decide),
      cutChars_of_not_mem fun hc => h.chars _ hc (by decide)]
  have hslash : ∀ c ∈ database.toList, (c == '/') = false := by
    intro c hc
    have := h.chars c hc
    simp_all
  rw [readName_eq, hkept, hpath, stripChars_of_forall hslash]

/-- Decoding adds no character and reading drops some, so a name that comes back was kept whole. -/
theorem readName_of_decoded (h : decoded (readName database) = database) :
    readName database = database.toList := by
  refine (readName_sublist database).eq_of_length_le ?_
  have hlen := (length_percentDecode (String.ofList (readName database))).1
  rw [String.toList_ofList] at hlen
  rw [decoded] at h
  rwa [h] at hlen

/-- What a written URL is read as when it is accepted. -/
theorem ofUrl_url_eq_ok (hh : IsHost host) (hp : IsPort port n) (user password database : String)
    {s : Server} :
    ofUrl (.text (url user password host port database)) = .ok s ↔
      readName database ≠ [] ∧ '/' ∉ readName database ∧
        s = { user, database := decoded (readName database), password, host, port := n } := by
  rw [ofUrl_url hh hp]
  split_ifs with hc
  · simp only [Bool.or_eq_true, List.isEmpty_iff, List.contains_iff_mem] at hc
    refine iff_of_false (fun h => nomatch h) ?_
    rintro ⟨hne, hslash, -⟩
    exact hc.elim hne hslash
  · simp only [Bool.or_eq_true, List.isEmpty_iff, List.contains_iff_mem, not_or] at hc
    rw [Except.ok.injEq]
    exact ⟨fun h => ⟨hc.1, hc.2, h.symm⟩, fun h => h.2.2.symm⟩

/-- A written URL names the database it was written for exactly when a URL keeps its name. -/
theorem ofUrl_url_identity_iff (hh : IsHost host) (hp : IsPort port n)
    (user password database : String) :
    (∃ s, ofUrl (.text (url user password host port database)) = .ok s ∧
      s.identity = ⟨host, n, user, password, database⟩) ↔ IsKeptName database := by
  constructor
  · rintro ⟨s, hs, hid⟩
    obtain ⟨hne, hslash, rfl⟩ := (ofUrl_url_eq_ok hh hp user password database).mp hs
    simp only [identity, Identity.mk.injEq, true_and] at hid
    have hname := readName_of_decoded hid
    rw [hname] at hne hslash hid
    refine ⟨fun he => hne (by rw [he]; rfl), fun c hc hmem => ?_, ?_⟩
    · rcases List.mem_cons.mp hmem with rfl | hmem
      · exact hslash hc
      · exact not_mem_readName hmem (hname ▸ hc)
    · rw [decoded, String.ofList_toList] at hid
      exact percentDecode_eq_self_iff.mp hid
  · intro h
    have hdec : decoded database.toList = database := by
      rw [decoded, String.ofList_toList, percentDecode_eq_self_iff.mpr h.unescaped]
    refine ⟨_, (ofUrl_url_eq_ok hh hp user password database).mpr ⟨?_, ?_, rfl⟩, ?_⟩
    · rw [h.readName]
      simpa using h.nonempty
    · rw [h.readName]
      exact fun hc => h.chars _ hc List.mem_cons_self
    · rw [h.readName, hdec]
      rfl

/-- A written URL names the server it was written for, whatever stands in user and password. -/
theorem ofUrl_url_identity (hh : IsHost host) (hp : IsPort port n) (hd : IsDatabaseName database)
    (user password : String) :
    ∃ s, ofUrl (.text (url user password host port database)) = .ok s ∧
      s.identity = ⟨host, n, user, password, database⟩ :=
  (ofUrl_url_identity_iff hh hp user password database).mpr hd.isKeptName

end Written

theorem spacedUser_identity :
    ∃ s, ofUrl (.text (url "é:@/%+ \n" "%2F?#" "db-1.local" "3307" "shop")) = .ok s ∧
      s.identity = ⟨"db-1.local", 3307, "é:@/%+ \n", "%2F?#", "shop"⟩ :=
  ofUrl_url_identity
    ⟨by decide, by simp [isHostChar]⟩
    ⟨by simp, by decide, by decide, by decide⟩
    ⟨by decide, by simp⟩
    "é:@/%+ \n" "%2F?#"

end Server

end RowQuery
