import FreeVPN.Foundation.Html
import FreeVPN.Upload.ProfileServer

/-!
# The answer page

`responsePage` of `ProfileServer.swift`: the page that a posted body is answered with.  A success page has
the name of the profile in it, of which nothing but the quotation marks is escaped.

`keepsStructure_iff` says for which names the page stays as it is.
-/

namespace FreeVPN.Upload

open FreeVPN.Lib FreeVPN.Foundation

/-! ### The pages -/

/-- `responsePage`: the style sheet. -/
def stylesheet (iconColor : Text) : List Text :=
  ["*\x7bbox-sizing:border-box\x7d".toList,
    "body\x7bfont-family:-apple-system,system-ui,'Roboto',sans-serif;display:flex;".toList ++
      "align-items:center;justify-content:center;min-height:100vh;margin:0;padding:16px;".toList ++
      "background:#f5f5f5;color:#212121\x7d".toList,
    ".card\x7btext-align:center;padding:32px 24px;border-radius:16px;background:#fff;".toList ++
      "max-width:440px;width:100%;box-shadow:0 2px 8px rgba(0,0,0,0.08),0 1px 2px rgba(0,0,0,".toList ++
      "0.04)\x7d".toList,
    "@media(min-width:480px)\x7b.card\x7bpadding:48px 40px\x7d\x7d".toList,
    ".icon\x7bfont-size:64px;margin-bottom:20px;color:".toList ++ iconColor ++ "\x7d".toList,
    "h1\x7bmargin:0 0 12px;font-size:22px;font-weight:600;color:#1a1a1a\x7d".toList,
    "p\x7bcolor:#666;font-size:16px;line-height:1.6;margin:0 0 28px\x7d".toList,
    "a\x7bdisplay:inline-flex;align-items:center;gap:6px;color:#fff;background:#1a73e8;".toList ++
      "text-decoration:none;font-weight:600;font-size:15px;padding:12px 24px;border-radius:24px;".toList ++
      "transition:background 0.2s\x7d".toList,
    "a:hover\x7bbackground:#1557b0\x7d".toList,
    "a:active\x7bbackground:#12489e\x7d".toList]

/-- `responsePage`: the lines in front of the message. -/
def responseHead (icon iconColor title : Text) : List Text :=
  ["<!DOCTYPE html>".toList,
    "<html><head><meta name=\"viewport\" content=\"width=device-width,initial-scale=1,maximum-scale=1\">".toList,
    "<style>".toList] ++
  stylesheet iconColor ++
  ["</style></head><body>".toList,
    "<div class=\"card\">".toList,
    "<div class=\"icon\">".toList ++ icon ++ "</div>".toList,
    "<h1>".toList ++ title ++ "</h1>".toList]

/-- `responsePage` -/
def responsePage (icon iconColor title message : Text) (showBackLink : Bool) : Text :=
  joined ['\n'] (responseHead icon iconColor title ++
    ["<p>".toList ++ message ++ "</p>".toList,
      if showBackLink then "<a href=\"/\">&#8592; Upload another</a>".toList else [],
      "</div></body></html>".toList])

/-- `replacingOccurrences(of: "\"", with: "&quot;")` -/
def replaceQuotes (s : Text) : Text := s.flatMap fun c => if c = '"' then "&quot;".toList else [c]

/-- `sendSuccessPage`: the page. -/
def sendSuccessPage (profileName : Text) (protocolName : String) : Text :=
  responsePage "&#10003;".toList "#34c759".toList (protocolName.toList ++ " Profile Uploaded".toList)
    ('"' :: replaceQuotes profileName ++
      "\" has been added to your Apple TV. You can select it from the profile list.".toList) true

/-- `sendErrorPage`: the page. -/
def sendErrorPage (message : String) : Text :=
  responsePage "&#10007;".toList "#ff3b30".toList "Invalid Profile".toList (replaceQuotes message.toList) true

/-- The page that a posted body is answered with. -/
def answerPage (body : Text) : Text :=
  match (processUploadBody body).1 with
  | .errorPage message => sendErrorPage message
  | .successPage profileName protocolName => sendSuccessPage profileName protocolName

/-! ### Where the name stands -/

/-- The success page up to the name. -/
def beforeName (protocolName : String) : Text :=
  ((responseHead "&#10003;".toList "#34c759".toList (protocolName.toList ++ " Profile Uploaded".toList)).flatMap
    fun line => line ++ ['\n']) ++ "<p>\"".toList

/-- The success page behind the quotation mark that ends the name. -/
def afterName : Text :=
  " has been added to your Apple TV. You can select it from the profile list.".toList ++ "</p>".toList ++
    '\n' :: "<a href=\"/\">&#8592; Upload another</a>".toList ++ '\n' :: "</div></body></html>".toList

/-- The first character of a string. -/
lemma toList_eq_cons {s : String} {c : Char} (l : List Char) (h : s = String.ofList (c :: l)) :
    s.toList = c :: (String.ofList l).toList := by
  rw [h, String.toList_ofList, String.toList_ofList]

lemma sendSuccessPage_eq (profileName : Text) (protocolName : String) :
    sendSuccessPage profileName protocolName =
      beforeName protocolName ++ (replaceQuotes profileName ++ ['"'] ++ afterName) := by
  have hbefore : "<p>\"".toList = "<p>".toList ++ ['"'] := rfl
  have hbehind : "\" has been added to your Apple TV. You can select it from the profile list.".toList =
      '"' :: " has been added to your Apple TV. You can select it from the profile list.".toList :=
    toList_eq_cons _ rfl
  have hmessage : "<p>".toList ++ ('"' :: replaceQuotes profileName ++
      "\" has been added to your Apple TV. You can select it from the profile list.".toList) ++ "</p>".toList =
      "<p>\"".toList ++ (replaceQuotes profileName ++
        "\" has been added to your Apple TV. You can select it from the profile list.".toList ++ "</p>".toList) := by
    rw [hbefore]
    simp only [List.append_assoc, List.cons_append, List.nil_append]
  unfold sendSuccessPage responsePage beforeName afterName joined
  rw [hmessage, intercalate_append_cons, hbehind, List.intercalate_cons_cons, List.intercalate_cons_cons,
    List.intercalate_singleton]
  simp only [List.append_assoc, List.cons_append, List.nil_append, if_true]

/-- The name, as it is in the page, is character data: the tokenizer puts out characters while it reads the
name, and nothing else, up to the quotation mark that tells what a `<` at its end begins. -/
def NameIsCharacters (profileName : Text) (protocolName : String) : Prop :=
  Html.ReadsAsCharacters (Html.stateAfter .data (beforeName protocolName)) (replaceQuotes profileName ++ ['"'])

/-- The two pages have the same tags with the same attributes, and the names are character data. -/
structure KeepsStructure (body body' : Text) : Prop where
  tags : Html.tags (answerPage body) = Html.tags (answerPage body')
  characters : ∀ b ∈ [body, body'], ∀ profileName protocolName,
    (processUploadBody b).1 = .successPage profileName protocolName → NameIsCharacters profileName protocolName

/-! ### What a name does to the page -/

lemma toList_quot : "&quot;".toList = ['&', 'q', 'u', 'o', 't', ';'] := String.toList_ofList

lemma replaceQuotes_cons (c : Char) (s : Text) :
    replaceQuotes (c :: s) = (if c = '"' then "&quot;".toList else [c]) ++ replaceQuotes s := List.flatMap_cons

lemma opensMarkup_replaceQuotes {s : Text} : Html.OpensMarkup (replaceQuotes s) ↔ Html.OpensMarkup s := by
  have hhead : ∀ s : Text, (replaceQuotes s).head? = some '>' ↔ s.head? = some '>' := by
    intro s
    cases s with
    | nil => rfl
    | cons c s =>
      rw [replaceQuotes_cons]
      split_ifs with hc
      · rw [hc, toList_quot]
        simp
      · rfl
  cases s with
  | nil => rfl
  | cons c s =>
    rw [replaceQuotes_cons]
    split_ifs with hc
    · rw [hc, toList_quot]
      simp [Html.OpensMarkup]
    · by_cases hslash : c = '/'
      · rw [hslash]
        exact not_congr (hhead s)
      · rw [List.singleton_append, Html.OpensMarkup, Html.OpensMarkup]
        · exact hslash
        · exact hslash

/-- A quotation mark begins no markup, escaped or not. -/
lemma inert_replaceQuotes {s : Text} : Html.Inert (replaceQuotes s) ↔ Html.Inert s := by
  induction s with
  | nil => rfl
  | cons c s ih =>
    rw [replaceQuotes_cons, Html.inert_cons]
    split_ifs with hc
    · rw [hc, toList_quot]
      simp [Html.inert_cons, ih]
    · rw [List.singleton_append, Html.inert_cons, opensMarkup_replaceQuotes]
      exact and_congr_right' ih

lemma protocolName_mem (c : Text) : protocolName c ∈ ["AmneziaWG", "OpenVPN", "WireGuard"] := by
  unfold protocolName
  dsimp only
  split_ifs <;> simp

lemma notMem_ofList {c : Char} (l : List Char) (h : c ∉ l) : c ∉ (String.ofList l).toList := by
  rw [String.toList_ofList]
  exact h

/-- The style sheet has no tags in it. -/
lemma notMem_stylesheet : ∀ line ∈ stylesheet "#34c759".toList, '<' ∉ line := by
  unfold stylesheet
  simp only [List.forall_mem_cons]
  refine ⟨?_, ?_, ?_, ?_, ?_, ?_, ?_, ?_, ?_, ?_, by simp⟩
  · exact notMem_ofList _ (by decide)
  · refine List.not_mem_append (List.not_mem_append ?_ ?_) ?_
    all_goals exact notMem_ofList _ (by decide)
  · refine List.not_mem_append (List.not_mem_append ?_ ?_) ?_
    all_goals exact notMem_ofList _ (by decide)
  · exact notMem_ofList _ (by decide)
  · refine List.not_mem_append (List.not_mem_append ?_ ?_) ?_
    all_goals exact notMem_ofList _ (by decide)
  · exact notMem_ofList _ (by decide)
  · exact notMem_ofList _ (by decide)
  · refine List.not_mem_append (List.not_mem_append ?_ ?_) ?_
    all_goals exact notMem_ofList _ (by decide)
  · exact notMem_ofList _ (by decide)
  · exact notMem_ofList _ (by decide)

/-- Lines without a `<`. -/
lemma stateAfter_lines {s : Html.State} (hs : s = .data ∨ ∃ element, s = .rawText element .none) {lines : List Text}
    (h : ∀ line ∈ lines, '<' ∉ line) : Html.stateAfter s (lines.flatMap fun line => line ++ ['\n']) = s := by
  refine Html.stateAfter_of_notMem hs fun hmem => ?_
  obtain ⟨line, hline, hmem⟩ := List.mem_flatMap.1 hmem
  exact List.not_mem_append (h line hline) (by decide) hmem

/-- The name begins in character data. -/
lemma stateAfter_beforeName {protocolName : String} (h : '<' ∉ protocolName.toList) :
    Html.stateAfter .data (beforeName protocolName) = .data := by
  have hstyle : Html.stateAfter (.rawText "style".toList .none)
      ((stylesheet "#34c759".toList).flatMap fun line => line ++ ['\n']) = .rawText "style".toList .none :=
    stateAfter_lines (Or.inr ⟨_, rfl⟩) notMem_stylesheet
  have hprotocol : Html.stateAfter .data protocolName.toList = .data :=
    Html.stateAfter_of_notMem (Or.inl rfl) h
  have hdoctype : Html.stateAfter .data "<!DOCTYPE html>".toList = .data :=
    Html.stateAfter_ofList _ rfl
  have hmeta : Html.stateAfter .data
      "<html><head><meta name=\"viewport\" content=\"width=device-width,initial-scale=1,maximum-scale=1\">".toList =
        .data :=
    Html.stateAfter_ofList _ (by decide +kernel)
  have hopen : Html.stateAfter .data "<style>".toList = .rawText "style".toList .none :=
    Html.stateAfter_ofList _ rfl
  have hclose : Html.stateAfter (.rawText "style".toList .none) "</style></head><body>".toList = .data :=
    Html.stateAfter_ofList _ rfl
  have hcard : Html.stateAfter .data "<div class=\"card\">".toList = .data :=
    Html.stateAfter_ofList _ rfl
  have hicon : Html.stateAfter .data "<div class=\"icon\">".toList = .data :=
    Html.stateAfter_ofList _ rfl
  have hmark : Html.stateAfter .data "&#10003;".toList = .data :=
    Html.stateAfter_ofList _ rfl
  have hdiv : Html.stateAfter .data "</div>".toList = .data :=
    Html.stateAfter_ofList _ rfl
  have hh1 : Html.stateAfter .data "<h1>".toList = .data :=
    Html.stateAfter_ofList _ rfl
  have huploaded : Html.stateAfter .data " Profile Uploaded".toList = .data :=
    Html.stateAfter_ofList _ rfl
  have hh1' : Html.stateAfter .data "</h1>".toList = .data :=
    Html.stateAfter_ofList _ rfl
  have hp : Html.stateAfter .data "<p>\"".toList = .data :=
    Html.stateAfter_ofList _ rfl
  have hline : Html.stateAfter .data ['\n'] = .data := rfl
  have hline' : Html.stateAfter (.rawText "style".toList .none) ['\n'] = .rawText "style".toList .none := rfl
  unfold beforeName responseHead
  simp only [List.flatMap_append, List.flatMap_cons, List.flatMap_nil, Html.stateAfter_append, hdoctype, hmeta,
    hopen, hstyle, hclose, hcard, hicon, hmark, hdiv, hh1, hprotocol, huploaded, hh1', hp, hline, hline',
    Html.stateAfter_nil]

lemma notMem_protocolName (c : Text) : '<' ∉ (protocolName c).toList := by
  have hnames : ∀ name ∈ ["AmneziaWG", "OpenVPN", "WireGuard"], '<' ∉ name.toList := by decide
  exact hnames _ (protocolName_mem c)

/-- The name and the protocol of a success page. -/
lemma processUploadBody_successPage {body profileName : Text} {protocolName : String}
    (h : (processUploadBody body).1 = .successPage profileName protocolName) :
    profileName = (nonEmpty (formValue (parseFormParams body) "name")).getD "Unnamed".toList ∧
      protocolName = Upload.protocolName (formValue (parseFormParams body) "config") := by
  unfold processUploadBody at h
  dsimp only at h
  split_ifs at h
  split at h
  · cases h
  · cases h
    exact ⟨rfl, rfl⟩

/-- The name that stands for an empty one begins no markup. -/
lemma inert_getD_unnamed {name : Text} : Html.Inert ((nonEmpty name).getD "Unnamed".toList) ↔ Html.Inert name := by
  unfold nonEmpty
  split_ifs with h
  · refine iff_of_true (fun s hs => ?_) (h ▸ Html.inert_nil)
    have hmem : '<' ∈ "Unnamed".toList := hs.subset (List.mem_cons_self ..)
    exact absurd hmem (by decide)
  · rfl

section SuccessPage

variable {body profileName : Text} {protocolName : String}
  (h : (processUploadBody body).1 = .successPage profileName protocolName)

include h

lemma stateAfter_beforeName_of_success : Html.stateAfter .data (beforeName protocolName) = .data := by
  rw [(processUploadBody_successPage h).2]
  exact stateAfter_beforeName (notMem_protocolName _)

/-- The name is character data if nothing in the submitted one begins markup. -/
theorem nameIsCharacters_iff :
    NameIsCharacters profileName protocolName ↔ Html.Inert (formValue (parseFormParams body) "name") := by
  rw [NameIsCharacters, stateAfter_beforeName_of_success h, Html.readsAsCharacters_iff, inert_replaceQuotes,
    (processUploadBody_successPage h).1, inert_getD_unnamed]

/-- The tags of a success page: those in front of the name, and those from the name on. -/
theorem tags_answerPage :
    Html.tags (answerPage body) =
      Html.tagsWithin (beforeName protocolName) ++ Html.tags (replaceQuotes profileName ++ ['"'] ++ afterName) := by
  rw [answerPage, h]
  dsimp only
  rw [sendSuccessPage_eq, Html.tags_append (stateAfter_beforeName_of_success h)]

/-- A name that is character data has no tags, and leaves those behind it as they are. -/
theorem tags_answerPage_of_nameIsCharacters (hname : NameIsCharacters profileName protocolName) :
    Html.tags (answerPage body) = Html.tagsWithin (beforeName protocolName) ++ Html.tags afterName := by
  rw [NameIsCharacters, stateAfter_beforeName_of_success h] at hname
  rw [tags_answerPage h, Html.tags_append_of_readsAsCharacters hname]

end SuccessPage

/-! ### When the page keeps its structure -/

/-- **When a name leaves the page as it is.**  Two success pages for the same protocol have the same tags and
attributes, and their names are character data, if and only if nothing in the two submitted names begins
markup: a name is escaped where it has a quotation mark, and nowhere else. -/
theorem keepsStructure_iff {body body' profileName profileName' : Text} {protocolName : String}
    (h : (processUploadBody body).1 = .successPage profileName protocolName)
    (h' : (processUploadBody body').1 = .successPage profileName' protocolName) :
    KeepsStructure body body' ↔
      Html.Inert (formValue (parseFormParams body) "name") ∧
        Html.Inert (formValue (parseFormParams body') "name") := by
  rw [← nameIsCharacters_iff h, ← nameIsCharacters_iff h']
  constructor
  · intro hkeeps
    exact ⟨hkeeps.characters body (by simp) _ _ h, hkeeps.characters body' (by simp) _ _ h'⟩
  · rintro ⟨hname, hname'⟩
    refine ⟨?_, ?_⟩
    · rw [tags_answerPage_of_nameIsCharacters h hname, tags_answerPage_of_nameIsCharacters h' hname']
    · intro b hb n p hpage
      rw [List.mem_cons, List.mem_singleton] at hb
      rcases hb with rfl | rfl
      · rw [h, Answer.successPage.injEq] at hpage
        rwa [← hpage.1, ← hpage.2]
      · rw [h', Answer.successPage.injEq] at hpage
        rwa [← hpage.1, ← hpage.2]

/-- Two names without a `<`. -/
theorem keepsStructure_iff_hello :
    (processUploadBody "config=hello&name=a".toList).1 = .successPage "a".toList "WireGuard" ∧
      (processUploadBody "config=hello&name=b".toList).1 = .successPage "b".toList "WireGuard" ∧
      (KeepsStructure "config=hello&name=a".toList "config=hello&name=b".toList ↔
        Html.Inert (formValue (parseFormParams "config=hello&name=a".toList) "name") ∧
          Html.Inert (formValue (parseFormParams "config=hello&name=b".toList) "name")) := by
  have h : (processUploadBody "config=hello&name=a".toList).1 = .successPage "a".toList "WireGuard" := by
    decide +kernel
  have h' : (processUploadBody "config=hello&name=b".toList).1 = .successPage "b".toList "WireGuard" := by
    decide +kernel
  exact ⟨h, h', keepsStructure_iff h h'⟩

/-- The bodies have the same form fields, apart from the name of the profile. -/
def DifferInName (body body' : Text) : Prop :=
  ∀ key, key ≠ "name".toList → parseFormParams body key = parseFormParams body' key

/-- The last field of a body. -/
lemma parseFormParams_append {pair : Text} (hpair : '&' ∉ pair) (body : Text) :
    parseFormParams (body ++ '&' :: pair) =
      Function.update (parseFormParams body) (formField pair).1 (some (formField pair).2) := by
  rw [parseFormParams, List.splitOn_append_cons_self, List.splitOn_eq_singleton hpair, List.foldl_append]
  rfl

lemma differInName_append {pair pair' : Text} (hpair : '&' ∉ pair) (hpair' : '&' ∉ pair')
    (hkey : (formField pair).1 = "name".toList) (hkey' : (formField pair').1 = "name".toList) (body : Text) :
    DifferInName (body ++ '&' :: pair) (body ++ '&' :: pair') := by
  intro key hne
  rw [parseFormParams_append hpair, parseFormParams_append hpair', hkey, hkey', Function.update_of_ne hne,
    Function.update_of_ne hne]

/-- The name `<b>` is a tag of the page. -/
theorem not_keepsStructure_hello :
    ¬∀ (body body' profileName profileName' : Text) (protocolName : String), DifferInName body body' →
      (processUploadBody body).1 = .successPage profileName protocolName →
      (processUploadBody body').1 = .successPage profileName' protocolName → KeepsStructure body body' := by
  intro hkeeps
  have h : (processUploadBody ("config=hello".toList ++ '&' :: "name=a".toList)).1 =
      .successPage ['a'] "WireGuard" := by decide +kernel
  have h' : (processUploadBody ("config=hello".toList ++ '&' :: "name=%3Cb%3E".toList)).1 =
      .successPage ['<', 'b', '>'] "WireGuard" := by decide +kernel
  have hdiffer : DifferInName ("config=hello".toList ++ '&' :: "name=a".toList)
      ("config=hello".toList ++ '&' :: "name=%3Cb%3E".toList) :=
    differInName_append (by decide) (by decide) (by decide +kernel) (by decide +kernel) _
  have htags := (hkeeps _ _ _ _ _ hdiffer h h').tags
  have hstate : Html.stateAfter .data (replaceQuotes ['a'] ++ ['"']) = .data := rfl
  have hstate' : Html.stateAfter .data (replaceQuotes ['<', 'b', '>'] ++ ['"']) = .data := rfl
  rw [tags_answerPage h, tags_answerPage h', Html.tags_append hstate, Html.tags_append hstate',
    List.append_cancel_left_eq, List.append_cancel_right_eq] at htags
  revert htags
  decide +kernel

end FreeVPN.Upload
