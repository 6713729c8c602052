import FreeVPN.Foundation.JavaScript
import FreeVPN.Profile.VPNProtocol

/-!
# How the upload page tells a protocol

`detectProtocol` of the upload page's script, beside `VPNProtocolType.detect` of the app.  The two have
the same tests, but for two: where the app takes the lines of a text and trims them, the script has a
regular expression; and where the app looks for `Character`s, the script looks for scalars.

* `hasAWGParams_iff`, `parameterLine_iff` — the places of a text where the two find a key of AmneziaWG;
* `hasClient_iff`, `clientLine_iff` — and the directive `client`;
* `sameDetection_iff` — the texts of which they say the same.
-/

namespace FreeVPN.Upload

open FreeVPN.Lib FreeVPN.Foundation FreeVPN.Foundation.JavaScript FreeVPN.Profile

/-! ### The script -/

/-- The results of `detectProtocol`. -/
inductive DetectedProtocol
  | amneziawg
  | wireguard
  | openvpn
  deriving DecidableEq

/-- `jc|jmin|jmax|s[1-4]|…|disablecookies` -/
def parameterKey : Regex Char :=
  .oneOf [.word ignoringCase "jc".toList, .word ignoringCase "jmin".toList, .word ignoringCase "jmax".toList,
    .seq (.word ignoringCase "s".toList) (.one (· ∈ "1234".toList)),
    .seq (.word ignoringCase "h".toList) (.one (· ∈ "1234".toList)),
    .seq (.word ignoringCase "i".toList) (.one (· ∈ "12345".toList)),
    .word ignoringCase "headerprotectionkey".toList, .word ignoringCase "contentpaddingaddition".toList,
    .word ignoringCase "rekeyaftertime".toList, .word ignoringCase "rekeytimeout".toList,
    .word ignoringCase "rejectaftertime".toList, .word ignoringCase "keepalivetimeout".toList,
    .word ignoringCase "maxhandshakeattempts".toList, .word ignoringCase "randomtrailers".toList,
    .word ignoringCase "disablecookies".toList]

/-- `/^(…)\s*=/im` -/
def parameterLine : Regex Char :=
  .seq .lineStart (.seq parameterKey (.seq (.many isSpace) (.one (· = '='))))

/-- `/^client\s*$/m` -/
def clientLine : Regex Char :=
  .seq .lineStart (.seq (.word (· = ·) "client".toList) (.seq (.many isSpace) .lineEnd))

/-- `l.includes('[interface]') && l.includes('[peer]') && l.includes('privatekey')` -/
def includesFamily (l : Text) : Bool :=
  includes l "[interface]".toList && includes l "[peer]".toList && includes l "privatekey".toList

/-- `detectProtocol` -/
def detectProtocol (c : Text) : Option DetectedProtocol :=
  let l := lowercased c
  if includesFamily l then
    if parameterLine.test isLineTerminator c then some .amneziawg else some .wireguard
  else if includes l "remote ".toList || includes l "<ca>".toList || clientLine.test isLineTerminator l then
    some .openvpn
  else none

/-- The script and the app say the same of a text. -/
structure SameDetection [Unicode] (c : Text) : Prop where
  amneziawg : detectProtocol c = some .amneziawg ↔ VPNProtocolType.detect c = .amneziaWG
  wireguard : detectProtocol c = some .wireguard ↔
    isWireGuardFamily c ∧ VPNProtocolType.detect c = .wireGuard
  openvpn : detectProtocol c = some .openvpn ↔ VPNProtocolType.detect c = .openVPN
  default : detectProtocol c = none ↔ ¬isWireGuardFamily c ∧ ¬looksLikeOpenVPN c

/-! ### Places of a text -/

/-- A word in a text, with the white space in front of it and behind it. -/
structure Place where
  before : Text
  indent : Text
  word : Text
  gap : Text
  after : Text

/-- The whole text. -/
def Place.text (x : Place) : Text := x.before ++ (x.indent ++ (x.word ++ (x.gap ++ x.after)))

/-- Where the app finds a key: at the beginning of a line, maybe behind white space, with an equals sign behind it
that is a `Character` of its own. -/
structure AppKey [Unicode] (c : Text) (x : Place) : Prop where
  text : x.text = c
  start : ∀ d ∈ x.before.getLast?, isNewline d
  indent : ∀ d ∈ x.indent, isWhitespace d
  word : lowercased x.word ∈ AmneziaWGKeys.interfaceKeys
  gap : ∀ d ∈ x.gap, isWhitespace d
  after : x.after.head? = some '='
  alone : ∀ d ∈ x.after.tail.head?, Unicode.isExtending d = false

/-- Where the script finds a key: right behind a line terminator. -/
structure PageKey (c : Text) (x : Place) : Prop where
  text : x.text = c
  start : ∀ d ∈ x.before.getLast?, isLineTerminator d
  indent : x.indent = []
  word : x.word.map Char.toLower ∈ AmneziaWGKeys.interfaceKeys
  gap : ∀ d ∈ x.gap, isSpace d
  after : x.after.head? = some '='

/-- Where the app finds the directive `client`: alone on a line. -/
structure AppClient (l : Text) (x : Place) : Prop where
  text : x.text = l
  start : ∀ d ∈ x.before.getLast?, isNewline d
  indent : ∀ d ∈ x.indent, isWhitespace d
  word : x.word = "client".toList
  gap : ∀ d ∈ x.gap, isWhitespace d
  after : ∀ d ∈ x.after.head?, isNewline d

/-- Where the script finds the directive. -/
structure PageClient (l : Text) (x : Place) : Prop where
  text : x.text = l
  start : ∀ d ∈ x.before.getLast?, isLineTerminator d
  indent : x.indent = []
  word : x.word = "client".toList
  gap : ∀ d ∈ x.gap, isSpace d
  after : ∀ d ∈ x.after.head?, isLineTerminator d

/-! ### What the script finds -/

/-- A letter and one of several digits. -/
lemma matches_numbered {t : Char → Bool} {k ds : Text} (hk : k.map Char.toLower = k)
    (hds : (ds.all fun d => d.toNat < 65) = true) {b : Option Char} {v w : Text} :
    (Regex.seq (.word ignoringCase k) (.one (· ∈ ds))).Matches t b v w ↔
      ∃ d ∈ ds, v.map Char.toLower = k ++ [d] := by
  simp only [Regex.Matches, Regex.matches_word, forall₂_ignoringCase hk, decide_eq_true_eq]
  constructor
  · rintro ⟨u, -, rfl, hu, d, rfl, hd⟩
    have hlower : d.toLower = d := (toLower_eq (by simpa using List.all_eq_true.1 hds d hd)).2 rfl
    exact ⟨d, hd, by rw [List.map_append, hu, List.map_singleton, hlower]⟩
  · rintro ⟨d, hd, hv⟩
    obtain ⟨u, z, rfl, hu, hz⟩ := List.map_eq_append_iff.1 hv
    obtain ⟨e, rfl, he⟩ := List.map_eq_singleton_iff.1 hz
    obtain rfl := (toLower_eq (by simpa using List.all_eq_true.1 hds d hd)).1 he
    exact ⟨u, [e], rfl, hu, e, rfl, hd⟩

lemma matches_key {t : Char → Bool} {k : Text} (hk : k.map Char.toLower = k) {b : Option Char} {v w : Text} :
    (Regex.word ignoringCase k).Matches t b v w ↔ v.map Char.toLower = k := by
  rw [Regex.matches_word, forall₂_ignoringCase hk]

/-- The keys of the app, as the expression has them. -/
lemma interfaceKeys_eq :
    AmneziaWGKeys.interfaceKeys = ["jc".toList, "jmin".toList, "jmax".toList] ++
      "1234".toList.map (fun d => "s".toList ++ [d]) ++ "1234".toList.map (fun d => "h".toList ++ [d]) ++
      "12345".toList.map (fun d => "i".toList ++ [d]) ++
      ["headerprotectionkey".toList, "contentpaddingaddition".toList, "rekeyaftertime".toList,
        "rekeytimeout".toList, "rejectaftertime".toList, "keepalivetimeout".toList,
        "maxhandshakeattempts".toList, "randomtrailers".toList, "disablecookies".toList] := rfl

/-- **The expression has the keys of the app.** -/
lemma matches_parameterKey {t : Char → Bool} {b : Option Char} {v w : Text} :
    parameterKey.Matches t b v w ↔ v.map Char.toLower ∈ AmneziaWGKeys.interfaceKeys := by
  rw [parameterKey, Regex.matches_oneOf, interfaceKeys_eq]
  simp only [List.mem_cons, List.not_mem_nil, or_false, exists_eq_or_imp, exists_eq_left, List.mem_append,
    List.mem_map, or_assoc]
  rw [matches_numbered (by decide) (by decide), matches_numbered (by decide) (by decide),
    matches_numbered (by decide) (by decide)]
  simp (disch := decide) only [matches_key, eq_comm]

/-- **Where the script finds a key.** -/
theorem parameterLine_iff {c : Text} :
    parameterLine.test isLineTerminator c = true ↔ ∃ x, PageKey c x := by
  rw [Regex.test_eq_true]
  constructor
  · rintro ⟨u, v, w, rfl, v₁, v₂, rfl, ⟨rfl, hstart⟩, k, v₃, rfl, hk, g, v₄, rfl, hg, e, rfl, he⟩
    have hword := matches_parameterKey.1 hk
    exact ⟨⟨u, [], k, g, [e] ++ w⟩, by simp [Place.text], hstart, rfl, hword, hg, by simpa using he⟩
  · rintro ⟨⟨u, i, k, g, a⟩, rfl, hstart, rfl, hword, hg, ha⟩
    obtain ⟨w, rfl⟩ := List.head?_eq_some_iff.1 ha
    refine ⟨u, k ++ (g ++ ['=']), w, by simp [Place.text], [], _, rfl, ⟨rfl, hstart⟩, k, g ++ ['='], rfl, ?_,
      g, ['='], rfl, hg, '=', rfl, rfl⟩
    exact matches_parameterKey.2 hword

/-- **Where the script finds the directive.** -/
theorem clientLine_iff {l : Text} :
    clientLine.test isLineTerminator l = true ↔ ∃ x, PageClient l x := by
  have hword : ∀ {k v : Text}, List.Forall₂ (fun c d => decide (c = d) = true) k v ↔ k = v := by
    intro k v
    simp only [decide_eq_true_eq]
    exact List.forall₂_eq_eq_eq ▸ Iff.rfl
  rw [Regex.test_eq_true]
  constructor
  · rintro ⟨u, v, w, rfl, v₁, v₂, rfl, ⟨rfl, hstart⟩, k, v₃, rfl, hk, g, v₄, rfl, hg, rfl, hend⟩
    obtain rfl := hword.1 (Regex.matches_word.1 hk)
    exact ⟨⟨u, [], "client".toList, g, w⟩, by simp only [Place.text, List.nil_append, List.append_nil, List.append_assoc],
      hstart, rfl, rfl, hg, hend⟩
  · rintro ⟨⟨u, i, k, g, w⟩, rfl, hstart, rfl, rfl, hg, hend⟩
    refine ⟨u, "client".toList ++ (g ++ []), w, by simp only [Place.text, List.nil_append, List.append_nil,
      List.append_assoc], [], _, rfl, ⟨rfl, hstart⟩, _, g ++ [],
      rfl, ?_, g, [], rfl, hg, rfl, hend⟩
    exact Regex.matches_word.2 (hword.2 rfl)

/-! ### What the app finds -/

lemma keys_plain :
    (AmneziaWGKeys.interfaceKeys.all fun k => k.all fun c => 48 ≤ c.toNat && c.toNat < 128 && c != '=' &&
      !isWhitespaceOrNewline c) = true := by
  decide +kernel

/-- The lines of a text, with what is around them. -/
lemma mem_components_iff {s l : Text} :
    l ∈ components s ↔ (∀ d ∈ l, isNewline d = false) ∧
      ∃ u v, s = u ++ (l ++ v) ∧ (∀ d ∈ u.getLast?, isNewline d) ∧ ∀ d ∈ v.head?, isNewline d :=
  mem_splitOnP_iff

lemma isNewline_of_isWhitespace {d : Char} (hd : isWhitespace d) : isNewline d = false := by
  by_contra hnew
  rw [isWhitespace_of_isNewline (by simpa using hnew)] at hd
  cases hd

lemma key_plain {k : Text} (hk : k ∈ AmneziaWGKeys.interfaceKeys) :
    ∀ d ∈ k, 48 ≤ d.toNat ∧ d.toNat < 128 ∧ d ≠ '=' ∧ isWhitespaceOrNewline d = false := by
  intro d hd
  have := List.all_eq_true.1 (List.all_eq_true.1 keys_plain k hk) d hd
  simpa [and_assoc] using this

/-- No white space becomes part of a key in lower case. -/
lemma notWhitespace_of_lowercased {K : Text} (hK : lowercased K ∈ AmneziaWGKeys.interfaceKeys) :
    ∀ d ∈ K, isWhitespaceOrNewline d = false := by
  intro d hd
  by_contra hspace
  rw [Bool.not_eq_false] at hspace
  have hself : lowercaseMapping d = [d] := by
    rcases Bool.or_eq_true_iff.1 hspace with hspace | hspace
    · exact lowercaseMapping_of_isWhitespace hspace
    · exact lowercaseMapping_of_isNewline hspace
  rw [(key_plain hK d (mem_lowercased hself hd)).2.2.2] at hspace
  cases hspace

section App

variable [Unicode]

omit [Unicode] in
/-- The first element of a list that begins another one. -/
lemma mem_head_of_begins {u v : Text} (h : u <+: v) : ∀ d ∈ u.head?, d ∈ v.head? := by
  intro d hd
  obtain ⟨w, rfl⟩ := h
  obtain ⟨u', rfl⟩ := List.head?_eq_some_iff.1 hd
  rfl

/-- White space is joined to nothing before it, and so is what is behind it. -/
lemma isExtending_head_append {g r : Text} (hg : ∀ d ∈ g, isWhitespace d)
    (hr : ∀ d ∈ r.head?, Unicode.isExtending d = false) : ∀ d ∈ (g ++ r).head?, Unicode.isExtending d = false := by
  cases g with
  | nil => exact hr
  | cons d g =>
    intro e he
    obtain rfl := Option.some.inj he
    exact (Unicode.blank d (by rw [isWhitespaceOrNewline, hg d (List.mem_cons_self ..), Bool.true_or])).1

/-- The trimmed line is a key, white space and an equals sign, in any case of letters. -/
lemma exists_of_key {line key : Text} (hkey : hasPrefix (lowercased (trimWhitespaces line)) key = true)
    (hequals : hasPrefix (trimWhitespaces ((lowercased (trimWhitespaces line)).drop key.length)) ['='] = true) :
    ∃ i K g r, line = i ++ (K ++ (g ++ '=' :: r)) ∧ (∀ d ∈ i, isWhitespace d) ∧ lowercased K = key ∧
      (∀ d ∈ g, isWhitespace d) ∧ ∀ d ∈ r.head?, Unicode.isExtending d = false := by
  obtain ⟨r, hr, -⟩ := hasPrefix_iff.1 hkey
  rw [hr, List.drop_left] at hequals
  obtain ⟨g, z, hgz, hg, hz⟩ := exists_trim isWhitespace r
  obtain ⟨r', hr', halone⟩ := hasPrefix_iff.1 hequals
  obtain ⟨i, j, hij, hi, hj⟩ := exists_trim isWhitespace line
  have hlower : lowercased (trimWhitespaces line) = key ++ (g ++ '=' :: (r' ++ z)) := by
    rw [hr, hgz, show trim isWhitespace r = _ from hr']
    simp
  have hhead : ∀ d ∈ (g ++ '=' :: (r' ++ z)).head?, d ≠ '\u0307' := by
    rintro d hd rfl
    cases g with
    | nil => cases hd
    | cons e g =>
      obtain rfl := Option.some.inj hd
      exact absurd (hg _ (List.mem_cons_self ..)) (by decide)
  obtain ⟨K, t, hKt, hK, ht⟩ := lowercased_eq_append hlower hhead
  obtain ⟨G, t', rfl, hG, ht'⟩ := lowercased_eq_append ht (by simp)
  obtain ⟨t'', rfl, ht''⟩ := lowercased_eq_cons (by decide) ht'
  -- trimming takes off white space, which is joined to nothing
  have hblank : ∀ x : Text, (∀ d ∈ x, isWhitespace d) → ∀ d ∈ x.head?, Unicode.isExtending d = false := by
    intro x hx
    simpa using isExtending_head_append hx (r := []) (by simp)
  have hrest : ∀ d ∈ (t'' ++ j).head?, Unicode.isExtending d = false := by
    cases t'' with
    | nil => exact hblank j hj
    | cons c t'' =>
      refine isExtending_head_lowercased (s := c :: t'').1 ?_
      rw [ht'']
      cases r' with
      | nil => exact hblank z hz
      | cons d r' => exact halone
  refine ⟨i, K, G, t'' ++ j, ?_, hi, hK, eq_of_lowercased hG hg ▸ hg, hrest⟩
  rw [hij, show trim isWhitespace line = _ from hKt]
  simp only [List.append_assoc, List.cons_append]

/-- Such a line has the key. -/
lemma key_of_lowercased {i K g r : Text} (hi : ∀ d ∈ i, isWhitespace d)
    (hK : lowercased K ∈ AmneziaWGKeys.interfaceKeys) (hg : ∀ d ∈ g, isWhitespace d)
    (hr : ∀ d ∈ r.head?, Unicode.isExtending d = false) :
    hasPrefix (lowercased (trimWhitespaces (i ++ (K ++ (g ++ '=' :: r))))) (lowercased K) = true ∧
      hasPrefix (trimWhitespaces ((lowercased (trimWhitespaces (i ++ (K ++ (g ++ '=' :: r))))).drop
        (lowercased K).length)) ['='] = true := by
  have htrim : trimWhitespaces (i ++ (K ++ (g ++ '=' :: r))) = K ++ (g ++ '=' :: r.rdropWhile isWhitespace) := by
    have hdrop : (K ++ g).dropWhile isWhitespace = K ++ g := by
      cases K with
      | nil => exact absurd hK (by decide)
      | cons d K =>
        have hd := (Bool.or_eq_false_iff.1 (notWhitespace_of_lowercased hK d (List.mem_cons_self ..))).1
        rw [List.cons_append, List.dropWhile_cons_of_neg (by simp [hd])]
    rw [trimWhitespaces, trim_append_left hi, ← List.append_assoc, trim_split (by decide), hdrop,
      List.append_assoc]
  have hequals : Unicode.isExtending '=' = false := (Unicode.ascii '=' (by decide)).1
  rw [htrim, lowercased_append, lowercased_append, lowercased_of_isWhitespace hg, List.drop_left]
  refine ⟨hasPrefix_iff.2 ⟨_, rfl, isExtending_head_append hg fun d hd => ?_⟩, ?_⟩
  · obtain rfl : '=' = d := Option.some.inj hd
    exact hequals
  rw [trimWhitespaces, trim_append_left hg, show lowercased ('=' :: r.rdropWhile isWhitespace) =
    [] ++ '=' :: lowercased (r.rdropWhile isWhitespace) from rfl, trim_split (by decide)]
  refine hasPrefix_iff.2 ⟨_, rfl, fun d hd => ?_⟩
  have hlower := mem_head_of_begins (List.rdropWhile_prefix isWhitespace _) d hd
  refine isExtending_head_lowercased.2 (fun c hc => ?_) d hlower
  exact hr c (mem_head_of_begins (List.rdropWhile_prefix isWhitespace _) c hc)

omit [Unicode] in
/-- The rest of the line that a text begins with, and what is behind it. -/
lemma exists_rest_of_line (s : Text) :
    ∃ r v, s = r ++ v ∧ (∀ d ∈ r, isNewline d = false) ∧ ∀ d ∈ v.head?, isNewline d := by
  refine ⟨_, _, (List.takeWhile_append_dropWhile (p := fun d => !isNewline d) (l := s)).symm, ?_, ?_⟩
  · intro d hd
    simpa using List.mem_takeWhile_imp hd
  · intro d hd
    have := List.head?_dropWhile_not (fun d => !isNewline d) s
    rw [Option.mem_def.1 hd] at this
    simpa using this

/-- **Where the app finds a key.** -/
theorem hasAWGParams_iff {c : Text} : hasAWGParams c = true ↔ ∃ x, AppKey c x := by
  unfold hasAWGParams
  simp only [List.any_eq_true, Bool.and_eq_true]
  constructor
  · rintro ⟨line, hline, key, hkey, hprefix, hequals⟩
    obtain ⟨-, u, v, rfl, hu, hv⟩ := mem_components_iff.1 hline
    obtain ⟨i, K, g, r, rfl, hi, rfl, hg, hr⟩ := exists_of_key hprefix hequals
    refine ⟨⟨u, i, K, g, '=' :: (r ++ v)⟩, by simp only [Place.text, List.append_assoc, List.cons_append], hu, hi,
      hkey, hg, rfl, ?_⟩
    change ∀ d ∈ (r ++ v).head?, _
    cases r with
    | nil =>
      -- a line break is joined to nothing
      intro d hd
      exact (Unicode.blank d (by rw [isWhitespaceOrNewline, hv d hd, Bool.or_true])).1
    | cons d r => exact hr
  · rintro ⟨⟨u, i, K, g, a⟩, rfl, hu, hi, hK, hg, ha, halone⟩
    dsimp only at hu hi hK hg ha halone
    obtain ⟨r', rfl⟩ := List.head?_eq_some_iff.1 ha
    obtain ⟨r, v, rfl, hr, hv⟩ := exists_rest_of_line r'
    have hline : i ++ (K ++ (g ++ '=' :: r)) ∈ components (Place.mk u i K g ('=' :: (r ++ v))).text := by
      refine mem_components_iff.2 ⟨?_, u, v, by simp [Place.text], hu, hv⟩
      simp only [List.mem_append, List.mem_cons]
      rintro d (hd | hd | hd | rfl | hd)
      · exact isNewline_of_isWhitespace (hi d hd)
      · exact (Bool.or_eq_false_iff.1 (notWhitespace_of_lowercased hK d hd)).2
      · exact isNewline_of_isWhitespace (hg d hd)
      · decide
      · exact hr d hd
    have halone : ∀ d ∈ r.head?, Unicode.isExtending d = false := fun d hd =>
      halone d (mem_head_of_begins (List.prefix_append r v) d hd)
    exact ⟨_, hline, lowercased K, hK, key_of_lowercased hi hK hg halone⟩

end App

/-- **Where the app finds the directive.** -/
theorem hasClient_iff {l : Text} : hasClient l = true ↔ ∃ x, AppClient l x := by
  unfold hasClient
  simp only [List.any_eq_true, decide_eq_true_eq]
  constructor
  · rintro ⟨line, hline, htrim⟩
    obtain ⟨-, u, v, rfl, hu, hv⟩ := mem_components_iff.1 hline
    obtain ⟨i, g, hig, hi, hg⟩ := exists_trim isWhitespace line
    refine ⟨⟨u, i, "client".toList, g, v⟩, ?_, hu, hi, rfl, hg, hv⟩
    rw [hig, show trim isWhitespace line = _ from htrim]
    simp only [Place.text, List.append_assoc]
  · rintro ⟨⟨u, i, K, g, v⟩, rfl, hu, hi, rfl, hg, hv⟩
    refine ⟨i ++ ("client".toList ++ g), mem_components_iff.2 ⟨?_, u, v, ?_, hu, hv⟩, ?_⟩
    · simp only [List.mem_append]
      rintro d (hd | hd | hd)
      · exact isNewline_of_isWhitespace (hi d hd)
      · have hall : ("client".toList.all fun d => !isNewline d) = true := by decide
        simpa using List.all_eq_true.1 hall d hd
      · exact isNewline_of_isWhitespace (hg d hd)
    · simp only [Place.text, List.append_assoc]
    · rw [trimWhitespaces, trim_append_left hi, trim_append_right hg]
      decide

/-! ### Where they agree -/

/-- A key at the beginning of a line, with blanks between it and the equals sign: both find it. -/
structure PlainKey [Unicode] (c : Text) (x : Place) : Prop where
  text : x.text = c
  start : ∀ d ∈ x.before.getLast?, isLineTerminator d
  indent : x.indent = []
  word : x.word.map Char.toLower ∈ AmneziaWGKeys.interfaceKeys
  gap : ∀ d ∈ x.gap, isWhitespace d
  after : x.after.head? = some '='
  alone : ∀ d ∈ x.after.tail.head?, Unicode.isExtending d = false

/-- A key that only the app finds: it is indented, or behind a break that ends no line in JavaScript
(U+000B, U+000C, U+0085), or written with a Kelvin sign. -/
structure AppOnlyKey [Unicode] (c : Text) (x : Place) : Prop extends AppKey c x where
  odd : x.indent ≠ [] ∨ (∃ d ∈ x.before.getLast?, isLineTerminator d = false) ∨ '\u212A' ∈ x.word

/-- A key that only the script finds: there is a line break or U+FEFF between it and the equals sign, or a
scalar behind the equals sign that is joined to it. -/
structure PageOnlyKey [Unicode] (c : Text) (x : Place) : Prop extends PageKey c x where
  odd : (∃ d ∈ x.gap, isWhitespace d = false) ∨ ∃ d ∈ x.after.tail.head?, Unicode.isExtending d = true

/-- `client` alone on a line, with blanks behind it: both find it. -/
structure PlainClient (l : Text) (x : Place) : Prop where
  text : x.text = l
  start : ∀ d ∈ x.before.getLast?, isLineTerminator d
  indent : x.indent = []
  word : x.word = "client".toList
  gap : ∀ d ∈ x.gap, isWhitespace d
  after : ∀ d ∈ x.after.head?, isLineTerminator d

/-- A directive that only the app finds: it is indented, or at a break that ends no line in JavaScript. -/
structure AppOnlyClient (l : Text) (x : Place) : Prop extends AppClient l x where
  odd : x.indent ≠ [] ∨ (∃ d ∈ x.before.getLast?, isLineTerminator d = false) ∨
    ∃ d ∈ x.after.head?, isLineTerminator d = false

/-- A directive that only the script finds: a form feed, a vertical tabulation or U+FEFF is behind it. -/
structure PageOnlyClient (l : Text) (x : Place) : Prop extends PageClient l x where
  odd : ∃ d ∈ x.gap, isWhitespace d = false

/-- A word of ASCII in lower case was one of ASCII, unless it had a scalar that becomes a letter of ASCII. -/
lemma lowercased_eq_map {w : Text} (hascii : ∀ d ∈ lowercased w, d.toNat < 128) (hkelvin : '\u212A' ∉ w) :
    lowercased w = w.map Char.toLower := by
  induction w with
  | nil => rfl
  | cons c w ih =>
    simp only [List.mem_cons, not_or] at hkelvin
    have hcons : lowercased (c :: w) = lowercaseMapping c ++ lowercased w := rfl
    rw [hcons] at hascii ⊢
    have hc : ∀ d ∈ lowercaseMapping c, d.toNat < 128 := fun d hd => hascii d (List.mem_append_left _ hd)
    have hdot : c ≠ '\u0130' := by
      rintro rfl
      exact absurd (hc '\u0307' (List.mem_cons_of_mem _ (List.mem_singleton_self _))) (by decide)
    obtain ⟨d, hd⟩ := lowercaseMapping_eq_singleton hdot
    have hmem : d ∈ lowercaseMapping c := hd ▸ List.mem_singleton_self d
    have hlower : c.toLower = d := by
      rcases toLower_of_mem_lowercaseMapping hmem (hc d hmem) with h | h | h
      · exact h
      · exact absurd h hdot
      · exact absurd h.symm hkelvin.1
    rw [hd, ih (fun e he => hascii e (List.mem_append_right _ he)) hkelvin.2, List.map_cons, hlower]
    rfl

/-- A word of ASCII is written in lower case letter by letter. -/
lemma lowercased_of_map {w : Text} (hw : w.map Char.toLower ∈ AmneziaWGKeys.interfaceKeys) :
    lowercased w = w.map Char.toLower := by
  have hascii : ∀ c ∈ w, c.toNat < 128 := by
    intro c hc
    have hlt := (key_plain hw _ (List.mem_map_of_mem (f := Char.toLower) hc)).2.1
    by_contra hge
    rw [toLower_eq_self (by omega)] at hlt
    exact hge hlt
  rw [lowercased, List.map_eq_flatMap]
  exact List.flatMap_congr fun c hc => if_pos (hascii c hc)

/-- A key for the app is one that the script compares, unless it has a Kelvin sign. -/
lemma map_of_lowercased {w : Text} (hw : lowercased w ∈ AmneziaWGKeys.interfaceKeys) (hkelvin : '\u212A' ∉ w) :
    w.map Char.toLower ∈ AmneziaWGKeys.interfaceKeys := by
  rwa [← lowercased_eq_map (fun d hd => (key_plain hw d hd).2.1) hkelvin]

/-- Some place where both find a key, or odd places for both or neither of them. -/
def KeysAgree [Unicode] (c : Text) : Prop :=
  (∃ x, PlainKey c x) ∨ ((∃ x, AppOnlyKey c x) ↔ ∃ x, PageOnlyKey c x)

/-- The same for the directive. -/
def ClientsAgree (l : Text) : Prop :=
  (∃ x, PlainClient l x) ∨ ((∃ x, AppOnlyClient l x) ↔ ∃ x, PageOnlyClient l x)

/-- They agree on what is no WireGuard text: the app finds `remote ` or `<ca>`; or only the script does, and the
app finds the directive; or neither does, and they agree on the directive. -/
def OpenVPNAgree [Unicode] (l : Text) : Prop :=
  contains l "remote ".toList ∨ contains l "<ca>".toList ∨
    if includes l "remote ".toList ∨ includes l "<ca>".toList then ∃ x, AppClient l x else ClientsAgree l

/-- Both have an answer in common, or each has one of its own, or neither has. -/
lemma or_iff_or_iff {p a b : Prop} : (p ∨ a ↔ p ∨ b) ↔ p ∨ (a ↔ b) := by
  by_cases hp : p <;> simp [hp]

lemma keysAgree_iff [Unicode] {c : Text} :
    KeysAgree c ↔ (hasAWGParams c = true ↔ parameterLine.test isLineTerminator c = true) := by
  have happ : (∃ x, AppKey c x) ↔ (∃ x, PlainKey c x) ∨ ∃ x, AppOnlyKey c x := by
    constructor
    · rintro ⟨x, hx⟩
      by_cases hodd : x.indent ≠ [] ∨ (∃ d ∈ x.before.getLast?, isLineTerminator d = false) ∨ '\u212A' ∈ x.word
      · exact Or.inr ⟨x, hx, hodd⟩
      · push Not at hodd
        refine Or.inl ⟨x, hx.text, fun d hd => ?_, hodd.1, map_of_lowercased hx.word hodd.2.2, hx.gap, hx.after,
          hx.alone⟩
        simpa using hodd.2.1 d hd
    · rintro (⟨x, hx⟩ | ⟨x, hx, -⟩)
      · refine ⟨x, hx.text, fun d hd => isNewline_of_isLineTerminator (hx.start d hd), by simp [hx.indent], ?_,
          hx.gap, hx.after, hx.alone⟩
        rw [lowercased_of_map hx.word]
        exact hx.word
      · exact ⟨x, hx⟩
  have hpage : (∃ x, PageKey c x) ↔ (∃ x, PlainKey c x) ∨ ∃ x, PageOnlyKey c x := by
    constructor
    · rintro ⟨x, hx⟩
      by_cases hodd : (∃ d ∈ x.gap, isWhitespace d = false) ∨ ∃ d ∈ x.after.tail.head?, Unicode.isExtending d = true
      · exact Or.inr ⟨x, hx, hodd⟩
      · push Not at hodd
        exact Or.inl ⟨x, hx.text, hx.start, hx.indent, hx.word, fun d hd => by simpa using hodd.1 d hd, hx.after,
          fun d hd => by simpa using hodd.2 d hd⟩
    · rintro (⟨x, hx⟩ | ⟨x, hx, -⟩)
      · exact ⟨x, hx.text, hx.start, hx.indent, hx.word, fun d hd => isSpace_of_isWhitespace (hx.gap d hd),
          hx.after⟩
      · exact ⟨x, hx⟩
  rw [hasAWGParams_iff, parameterLine_iff, happ, hpage, KeysAgree, or_iff_or_iff]

lemma clientsAgree_iff {l : Text} :
    ClientsAgree l ↔ (hasClient l = true ↔ clientLine.test isLineTerminator l = true) := by
  have happ : (∃ x, AppClient l x) ↔ (∃ x, PlainClient l x) ∨ ∃ x, AppOnlyClient l x := by
    constructor
    · rintro ⟨x, hx⟩
      by_cases hodd : x.indent ≠ [] ∨ (∃ d ∈ x.before.getLast?, isLineTerminator d = false) ∨
          ∃ d ∈ x.after.head?, isLineTerminator d = false
      · exact Or.inr ⟨x, hx, hodd⟩
      · push Not at hodd
        refine Or.inl ⟨x, hx.text, fun d hd => ?_, hodd.1, hx.word, hx.gap, fun d hd => ?_⟩
        · simpa using hodd.2.1 d hd
        · simpa using hodd.2.2 d hd
    · rintro (⟨x, hx⟩ | ⟨x, hx, -⟩)
      · exact ⟨x, hx.text, fun d hd => isNewline_of_isLineTerminator (hx.start d hd), by simp [hx.indent], hx.word,
          hx.gap, fun d hd => isNewline_of_isLineTerminator (hx.after d hd)⟩
      · exact ⟨x, hx⟩
  have hpage : (∃ x, PageClient l x) ↔ (∃ x, PlainClient l x) ∨ ∃ x, PageOnlyClient l x := by
    constructor
    · rintro ⟨x, hx⟩
      by_cases hodd : ∃ d ∈ x.gap, isWhitespace d = false
      · exact Or.inr ⟨x, hx, hodd⟩
      · push Not at hodd
        exact Or.inl ⟨x, hx.text, hx.start, hx.indent, hx.word, fun d hd => by simpa using hodd d hd, hx.after⟩
    · rintro (⟨x, hx⟩ | ⟨x, hx, -⟩)
      · exact ⟨x, hx.text, hx.start, hx.indent, hx.word, fun d hd => isSpace_of_isWhitespace (hx.gap d hd),
          hx.after⟩
      · exact ⟨x, hx⟩
  rw [hasClient_iff, clientLine_iff, happ, hpage, ClientsAgree, or_iff_or_iff]

/-- What the app finds, the script finds. -/
lemma includes_of_contains [Unicode] {l t : Text} (h : contains l t = true) : includes l t = true :=
  decide_eq_true (infix_of_contains h)

lemma includesFamily_of_isWireGuardFamily [Unicode] {c : Text} (h : isWireGuardFamily c = true) :
    includesFamily (lowercased c) = true := by
  simp only [isWireGuardFamily, Bool.and_eq_true] at h
  simp only [includesFamily, Bool.and_eq_true]
  exact ⟨⟨includes_of_contains h.1.1, includes_of_contains h.1.2⟩, includes_of_contains h.2⟩

lemma openVPNAgree_iff [Unicode] {l : Text} : OpenVPNAgree l ↔
    ((contains l "remote ".toList || contains l "<ca>".toList || hasClient l) = true ↔
      (includes l "remote ".toList || includes l "<ca>".toList || clientLine.test isLineTerminator l) = true) := by
  have hremote := includes_of_contains (l := l) (t := "remote ".toList)
  have hca := includes_of_contains (l := l) (t := "<ca>".toList)
  rw [OpenVPNAgree, clientsAgree_iff, ← hasClient_iff]
  generalize contains l "remote ".toList = a at hremote ⊢
  generalize contains l "<ca>".toList = b at hca ⊢
  generalize includes l "remote ".toList = a' at hremote ⊢
  generalize includes l "<ca>".toList = b' at hca ⊢
  generalize hasClient l = k
  generalize clientLine.test isLineTerminator l = k'
  cases a with
  | true => simp [hremote rfl]
  | false =>
    cases b with
    | true => simp [hca rfl]
    | false => cases a' <;> cases b' <;> simp

/-- **Where the page and the app agree.**  On a text of the WireGuard family, where they agree on the keys; on
another text, where the script does not take it for one of the family, and they agree on what makes an OpenVPN
text. -/
theorem sameDetection_iff [Unicode] {c : Text} :
    SameDetection c ↔
      if isWireGuardFamily c then KeysAgree c
      else includesFamily (lowercased c) = false ∧ OpenVPNAgree (lowercased c) := by
  have hpage : detectProtocol c = if includesFamily (lowercased c) then
        if parameterLine.test isLineTerminator c then some .amneziawg else some .wireguard
      else if includes (lowercased c) "remote ".toList || includes (lowercased c) "<ca>".toList ||
          clientLine.test isLineTerminator (lowercased c) then some .openvpn else none := rfl
  have happ : VPNProtocolType.detect c = if isWireGuardFamily c then
      if hasAWGParams c then .amneziaWG else .wireGuard
    else if looksLikeOpenVPN c then .openVPN else .wireGuard := rfl
  have hlooks : looksLikeOpenVPN c = (contains (lowercased c) "remote ".toList ||
    contains (lowercased c) "<ca>".toList || hasClient (lowercased c)) := rfl
  rw [keysAgree_iff, openVPNAgree_iff, ← hlooks]
  generalize (includes (lowercased c) "remote ".toList || includes (lowercased c) "<ca>".toList ||
    clientLine.test isLineTerminator (lowercased c)) = o at hpage ⊢
  generalize parameterLine.test isLineTerminator c = q at hpage ⊢
  cases hfamily : isWireGuardFamily c with
  | true =>
    -- both take the text for one of the family, so that only the keys matter
    rw [includesFamily_of_isWireGuardFamily hfamily] at hpage
    rw [hfamily] at happ
    constructor
    · rintro ⟨h₁, -, -, -⟩
      rw [hpage, happ] at h₁
      cases ha : hasAWGParams c <;> cases q <;> simp [ha] at h₁ ⊢
    · intro h
      have hq : q = hasAWGParams c := Bool.eq_iff_iff.2 h.symm
      subst hq
      cases ha : hasAWGParams c <;> rw [ha] at hpage happ <;>
        exact ⟨by simp [hpage, happ], by simp [hpage, happ, hfamily], by simp [hpage, happ],
          by simp [hpage, hfamily]⟩
  | false =>
    rw [hfamily] at happ
    cases hwords : includesFamily (lowercased c) with
    | true =>
      -- the script tells a WireGuard protocol, and the app does not
      rw [hwords] at hpage
      refine iff_of_false (fun ⟨h₁, h₂, _, _⟩ => ?_) (by simp)
      rw [hpage, happ] at h₁
      rw [hpage, hfamily] at h₂
      cases q <;> cases hl : looksLikeOpenVPN c <;> simp [hl] at h₁ h₂
    | false =>
      rw [hwords] at hpage
      constructor
      · rintro ⟨-, -, h₃, -⟩
        rw [hpage, happ] at h₃
        cases o <;> cases hl : looksLikeOpenVPN c <;> simp [hl] at h₃ ⊢
      · rintro h
        have ho : o = looksLikeOpenVPN c := Bool.eq_iff_iff.2 h.2.symm
        subst ho
        cases hl : looksLikeOpenVPN c <;> rw [hl] at hpage happ <;>
          exact ⟨by simp [hpage, happ], by simp [hpage, happ, hfamily], by simp [hpage, happ],
            by simp [hpage, hfamily, hl]⟩

/-- An indented key: the app takes the text for an AmneziaWG configuration, and the page does not. -/
theorem not_sameDetection_indentedKey : ¬∀ c : Text, SameDetection c := by
  intro h
  have happ : VPNProtocolType.detect "[Interface]\nPrivateKey=a\n Jc=4\n[Peer]".toList = .amneziaWG := by
    decide +kernel
  have hpage : detectProtocol "[Interface]\nPrivateKey=a\n Jc=4\n[Peer]".toList = some .wireguard := by
    decide +kernel
  have hsame := (h "[Interface]\nPrivateKey=a\n Jc=4\n[Peer]".toList).amneziawg.2 happ
  rw [hpage] at hsame
  cases hsame

end FreeVPN.Upload
