import FreeVPN.Foundation.Characters
import FreeVPN.Manager.VPNManager
import FreeVPN.OpenVPN.Sanitize

/-!
# What the Packet Tunnel logs of a profile

`startOpenVPNTunnel` logs, before it connects: how long the profile is, its first 200 `Character`s, how
long it is once sanitized, and the directives that are left.  The loop over the directives leaves out
what stands in inline blocks, by a flag of its own.

* `SameButBlocks` — profiles that differ only in what stands in their inline blocks;
* `SameButBlocks.sanitizeLines`, `SameButBlocks.directives_eq` — the sanitizer and the loop do not tell
  them apart;
* `startOpenVPNTunnel_eq_iff` — the logs do, where the first 200 `Character`s are not the same.
-/

namespace FreeVPN.OpenVPN

open FreeVPN.Lib FreeVPN.Foundation FreeVPN.Manager

/-! ### The messages -/

/-- A message to the tunnel log, or one to the system log; there, numbers are public. -/
inductive Message
  | tunnelLog (message : Text)
  | systemLog (message : Text)
  deriving DecidableEq

/-- What is appended to the tunnel log. -/
def tunnelLog (messages : List Message) : List Text := messages.filterMap fun
  | .tunnelLog message => some message
  | .systemLog _ => none

/-- What the system log shows. -/
def systemLog (messages : List Message) : List Text := messages.filterMap fun
  | .tunnelLog _ => none
  | .systemLog message => some message

/-- The body of the loop over the directives: the flag `inCertBlock` after it, and what is logged. -/
def logLine (inCertBlock : Bool) (line : Text) : Bool × Option Text :=
  let trimmed := trimWhitespaces line
  let inCertBlock := if hasPrefix trimmed ['<'] && !hasPrefix trimmed ['<', '/'] then true else inCertBlock
  if hasPrefix trimmed ['<', '/'] then (false, none)
  else if inCertBlock then (inCertBlock, none)
  else if trimmed ≠ [] then (inCertBlock, some trimmed)
  else (inCertBlock, none)

/-- The directives that are logged. -/
def directives : Bool → List Text → List Text
  | _, [] => []
  | inCertBlock, line :: lines =>
    (logLine inCertBlock line).2.toList ++ directives (logLine inCertBlock line).1 lines

/-- `startOpenVPNTunnel`: the messages up to the attempt to connect. -/
def startOpenVPNTunnel [Characters] (providerConfig : ProviderConfiguration) : List Message :=
  match providerConfig.ovpnConfig with
  | none => [.systemLog "Missing OpenVPN configuration".toList]
  | some ovpnConfig =>
    let chars (config : Text) := digits (count config) ++ " chars)".toList
    let sanitizedConfig := sanitizeOpenVPNConfig ovpnConfig
    [.tunnelLog ("OpenVPN config received (".toList ++ chars ovpnConfig),
      .systemLog ("OpenVPN config received (".toList ++ chars ovpnConfig),
      .systemLog ("OpenVPN config preview: ".toList ++ firstCharacters 200 ovpnConfig),
      .tunnelLog ("Sanitized config (".toList ++ chars sanitizedConfig),
      .systemLog ("Sanitized OpenVPN config (".toList ++ chars sanitizedConfig ++ [':'])] ++
    (directives false (textLines sanitizedConfig)).flatMap fun trimmed =>
      [.tunnelLog ("  directive: ".toList ++ trimmed), .systemLog ("  ".toList ++ trimmed)]

/-! ### Inline blocks -/

/-- The line begins with the opening tag of an inline block. -/
def Opens (name line : Text) : Prop := name.head? ≠ some '/' ∧ '<' :: (name ++ ['>']) <+: trimWhitespaces line

/-- The line begins with the closing tag of an inline block. -/
def Closes (name line : Text) : Prop := '<' :: '/' :: (name ++ ['>']) <+: trimWhitespaces line

/-- The line does not begin with a tag. -/
def IsContent (line : Text) : Prop := hasPrefix (trimWhitespaces line) ['<'] = false

lemma Opens.hasPrefix {name line : Text} (h : Opens name line) :
    Foundation.hasPrefix (trimWhitespaces line) ['<'] = true ∧
      Foundation.hasPrefix (trimWhitespaces line) ['<', '/'] = false := by
  obtain ⟨hname, w, hw⟩ := h
  rw [← hw]
  refine ⟨hasPrefix_eq_true.2 (List.prefix_append ['<'] _), ?_⟩
  cases name with
  | nil => rfl
  | cons c name =>
    have hc : c ≠ '/' := fun hc => hname (congrArg some hc)
    rw [Bool.eq_false_iff]
    intro hprefix
    obtain ⟨-, hsecond⟩ := List.cons_prefix_cons.1 (hasPrefix_eq_true.1 hprefix)
    exact hc (List.cons_prefix_cons.1 hsecond).1.symm

lemma Closes.hasPrefix {name line : Text} (h : Closes name line) :
    Foundation.hasPrefix (trimWhitespaces line) ['<', '/'] = true := by
  obtain ⟨w, hw⟩ := h
  rw [← hw]
  exact hasPrefix_eq_true.2 (List.prefix_append ['<', '/'] _)

lemma IsContent.hasPrefix {line : Text} (h : IsContent line) :
    Foundation.hasPrefix (trimWhitespaces line) ['<', '/'] = false := by
  rw [Bool.eq_false_iff]
  intro hprefix
  have htag : Foundation.hasPrefix (trimWhitespaces line) ['<'] = true :=
    hasPrefix_eq_true.2 ((List.prefix_append ['<'] ['/']).trans (hasPrefix_eq_true.1 hprefix))
  rw [h] at htag
  cases htag

/-- A line that begins with a tag is kept, and is the flag of the sanitizer. -/
lemma sanitizeLine_tag {line : Text} (h : hasPrefix (trimWhitespaces line) ['<'] = true) (inBlock : Bool) :
    sanitizeLine inBlock line = (!hasPrefix (trimWhitespaces line) ['<', '/'], some line) := by
  obtain ⟨w, hw⟩ := hasPrefix_eq_true.1 h
  have hother : trimWhitespaces line ≠ [] ∧ hasPrefix (trimWhitespaces line) ['#'] = false ∧
      hasPrefix (trimWhitespaces line) [';'] = false := by
    rw [← hw]
    exact ⟨by simp, rfl, rfl⟩
  unfold sanitizeLine
  dsimp only
  rw [hasPrefix_lowercased (by decide), hasPrefix_lowercased (by decide), hasPrefix_lowercased (by decide),
    hasPrefix_lowercased (by decide), h, hother.2.1, hother.2.2]
  cases hasPrefix (trimWhitespaces line) ['<', '/'] <;> simp [hother.1]

/-- In a block every other line is kept. -/
lemma sanitizeLine_content {line : Text} (h : IsContent line) : sanitizeLine true line = (true, some line) := by
  have htag : hasPrefix (lowercased (trimWhitespaces line)) ['<'] = false := by
    rw [hasPrefix_lowercased (by decide)]
    exact h
  have hclose : hasPrefix (lowercased (trimWhitespaces line)) ['<', '/'] = false := by
    rw [hasPrefix_lowercased (by decide)]
    exact h.hasPrefix
  unfold sanitizeLine
  simp [htag, hclose]

/-- **The sanitizer keeps a block** as it is, and goes on behind it with its flag off. -/
lemma sanitizeLines_block {name opening closing : Text} (hopen : Opens name opening)
    (hclose : Closes name closing) {xs : List Text} (hxs : ∀ x ∈ xs, IsContent x) (inBlock : Bool)
    (ls : List Text) :
    sanitizeLines inBlock (opening :: (xs ++ closing :: ls)) =
      opening :: (xs ++ closing :: sanitizeLines false ls) := by
  obtain ⟨htag, hnot⟩ := hopen.hasPrefix
  have hcontent : sanitizeLines true (xs ++ closing :: ls) = xs ++ closing :: sanitizeLines false ls := by
    induction xs with
    | nil =>
      have htag : hasPrefix (trimWhitespaces closing) ['<'] = true :=
        hasPrefix_eq_true.2 ((List.prefix_append ['<'] ['/']).trans
          (hasPrefix_eq_true.1 hclose.hasPrefix))
      rw [List.nil_append, List.nil_append, sanitizeLines, sanitizeLine_tag htag, hclose.hasPrefix]
      rfl
    | cons x xs ih =>
      obtain ⟨hx, hxs⟩ := List.forall_mem_cons.1 hxs
      rw [List.cons_append, sanitizeLines, sanitizeLine_content hx, ih hxs]
      rfl
  rw [sanitizeLines, sanitizeLine_tag htag, hnot]
  simp only [Bool.not_false, hcontent]
  rfl

/-- **The loop leaves a block out**, and goes on behind it with its flag off. -/
lemma directives_block {name opening closing : Text} (hopen : Opens name opening)
    (hclose : Closes name closing) {xs : List Text} (hxs : ∀ x ∈ xs, IsContent x) (inCertBlock : Bool)
    (ls : List Text) :
    directives inCertBlock (opening :: (xs ++ closing :: ls)) = directives false ls := by
  obtain ⟨htag, hnot⟩ := hopen.hasPrefix
  have hcontent : directives true (xs ++ closing :: ls) = directives false ls := by
    induction xs with
    | nil =>
      have hline : logLine true closing = (false, none) := by simp [logLine, hclose.hasPrefix]
      rw [List.nil_append, directives, hline]
      rfl
    | cons x xs ih =>
      obtain ⟨hx, hxs⟩ := List.forall_mem_cons.1 hxs
      have hline : logLine true x = (true, none) := by simp [logLine, hx.hasPrefix]
      rw [List.cons_append, directives, hline]
      exact ih hxs
  have hline : logLine inCertBlock opening = (true, none) := by simp [logLine, htag, hnot]
  rw [directives, hline]
  exact hcontent

/-! ### Profiles that differ in their blocks -/

section Blocks

variable [Characters]

/-- Two lines of a block, of one length: the `Character`s of a line, with its line feed. -/
structure SameContent (line line' : Text) : Prop where
  left : IsContent line
  right : IsContent line'
  length : count (line ++ ['\n']) = count (line' ++ ['\n'])

/-- The lines of two profiles that differ only between the tags of inline blocks. -/
inductive SameButBlocks : List Text → List Text → Prop
  | nil : SameButBlocks [] []
  | line (l : Text) {ls ms : List Text} (h : SameButBlocks ls ms) : SameButBlocks (l :: ls) (l :: ms)
  | block {name opening closing : Text} {xs ys ls ms : List Text} (hopen : Opens name opening)
      (hclose : Closes name closing) (hxy : List.Forall₂ SameContent xs ys) (h : SameButBlocks ls ms) :
      SameButBlocks (opening :: (xs ++ closing :: ls)) (opening :: (ys ++ closing :: ms))

lemma forall_isContent {xs ys : List Text} (h : List.Forall₂ SameContent xs ys) :
    (∀ x ∈ xs, IsContent x) ∧ ∀ y ∈ ys, IsContent y := by
  induction h with
  | nil => exact ⟨nofun, nofun⟩
  | cons hxy _ ih => exact ⟨List.forall_mem_cons.2 ⟨hxy.left, ih.1⟩, List.forall_mem_cons.2 ⟨hxy.right, ih.2⟩⟩

namespace SameButBlocks

/-- What is left by the sanitizer differs only in the blocks. -/
lemma sanitizeLines {ls ms : List Text} (h : SameButBlocks ls ms) (inBlock : Bool) :
    SameButBlocks (OpenVPN.sanitizeLines inBlock ls) (OpenVPN.sanitizeLines inBlock ms) := by
  induction h generalizing inBlock with
  | nil => exact .nil
  | line l _ ih =>
    rw [OpenVPN.sanitizeLines, OpenVPN.sanitizeLines]
    cases (sanitizeLine inBlock l).2 with
    | none => exact ih _
    | some l => exact .line l (ih _)
  | block hopen hclose hxy _ ih =>
    obtain ⟨hxs, hys⟩ := forall_isContent hxy
    rw [sanitizeLines_block hopen hclose hxs, sanitizeLines_block hopen hclose hys]
    exact .block hopen hclose hxy (ih false)

/-- The directives that are logged are the same. -/
lemma directives_eq {ls ms : List Text} (h : SameButBlocks ls ms) (inCertBlock : Bool) :
    directives inCertBlock ls = directives inCertBlock ms := by
  induction h generalizing inCertBlock with
  | nil => rfl
  | line l _ ih => rw [directives, directives, ih]
  | block hopen hclose hxy _ ih =>
    obtain ⟨hxs, hys⟩ := forall_isContent hxy
    rw [directives_block hopen hclose hxs, directives_block hopen hclose hys, ih]

lemma append_line {ls ms : List Text} (h : SameButBlocks ls ms) (l : Text) :
    SameButBlocks (ls ++ [l]) (ms ++ [l]) := by
  induction h with
  | nil => exact .line l .nil
  | line k _ ih => exact .line k ih
  | block hopen hclose hxy _ ih =>
    simp only [List.cons_append, List.append_assoc]
    exact .block hopen hclose hxy ih

/-- The texts have as many `Character`s. -/
lemma count_eq {ls ms : List Text} (h : SameButBlocks ls ms) :
    count (joined ['\n'] ls) = count (joined ['\n'] ms) := by
  have hline : ∀ (l : Text) {ls ms : List Text}, (ls = [] ↔ ms = []) →
      count (joined ['\n'] ls) = count (joined ['\n'] ms) →
      count (joined ['\n'] (l :: ls)) = count (joined ['\n'] (l :: ms)) := by
    intro l ls ms hnil hcount
    by_cases hls : ls = []
    · rw [hls, hnil.1 hls]
    · have hleft := count_joined_append [l] hls
      have hright := count_joined_append [l] (mt hnil.2 hls)
      rw [← hcount, ← hleft] at hright
      exact hright.symm
  have hnil : ∀ {ls ms : List Text}, SameButBlocks ls ms → (ls = [] ↔ ms = []) := by
    intro ls ms h
    cases h <;> simp
  induction h with
  | nil => rfl
  | line l h ih => exact hline l (hnil h) ih
  | @block _ opening closing xs ys ls ms _ _ hxy h ih =>
    have hlengths : xs.map (fun x => count (x ++ ['\n'])) = ys.map fun y => count (y ++ ['\n']) := by
      rw [← List.forall₂_eq_eq_eq, List.forall₂_map_left_iff, List.forall₂_map_right_iff]
      exact hxy.imp fun _ _ hcontent => hcontent.length
    rw [← List.cons_append, ← List.cons_append, count_joined_append _ (List.cons_ne_nil _ _),
      count_joined_append _ (List.cons_ne_nil _ _), List.map_cons, List.map_cons, hlengths,
      hline closing (hnil h) ih]

end SameButBlocks

/-! ### The logs -/

/-- What the tunnel is started with. -/
def openVPNProvider (ovpnConfig : Text) : ProviderConfiguration :=
  { protocolType := "openVPN", ovpnConfig := some ovpnConfig }

/-- The sanitized profiles differ only in their blocks. -/
lemma SameButBlocks.sanitizeOpenVPNConfig {s t : Text} (h : SameButBlocks (textLines s) (textLines t)) :
    SameButBlocks (textLines (OpenVPN.sanitizeOpenVPNConfig s))
      (textLines (OpenVPN.sanitizeOpenVPNConfig t)) := by
  rw [textLines_sanitize, textLines_sanitize, keptLines, keptLines, ← sanitizeLines_eq, ← sanitizeLines_eq]
  exact (h.sanitizeLines false).append_line routeNopull

lemma SameButBlocks.count_text {s t : Text} (h : SameButBlocks (textLines s) (textLines t)) :
    count s = count t := by
  have hcount := h.count_eq
  rwa [joined, joined, List.intercalate_splitOn, List.intercalate_splitOn] at hcount

/-- **When the logs keep what stands in inline blocks.**  For two profiles that differ only there, the
same messages are written to the tunnel log and to the system log, if and only if the first 200
`Character`s are the same. -/
theorem startOpenVPNTunnel_eq_iff {s t : Text} (h : SameButBlocks (textLines s) (textLines t)) :
    (tunnelLog (startOpenVPNTunnel (openVPNProvider s)) = tunnelLog (startOpenVPNTunnel (openVPNProvider t)) ∧
      systemLog (startOpenVPNTunnel (openVPNProvider s)) =
        systemLog (startOpenVPNTunnel (openVPNProvider t))) ↔
      firstCharacters 200 s = firstCharacters 200 t := by
  constructor
  · rintro ⟨-, hsystem⟩
    obtain ⟨-, hrest⟩ := List.cons.inj hsystem
    exact List.append_cancel_left (List.cons.inj hrest).1
  · intro hpreview
    have hmessages : startOpenVPNTunnel (openVPNProvider s) = startOpenVPNTunnel (openVPNProvider t) := by
      have hsanitized := h.sanitizeOpenVPNConfig
      simp only [startOpenVPNTunnel, openVPNProvider, h.count_text, hpreview, hsanitized.count_text,
        hsanitized.directives_eq]
    rw [hmessages]
    exact ⟨rfl, rfl⟩

/-- A profile that is no longer than the preview is logged as it stands. -/
theorem mem_systemLog_of_count_le {s : Text} (h : count s ≤ 200) :
    "OpenVPN config preview: ".toList ++ s ∈ systemLog (startOpenVPNTunnel (openVPNProvider s)) := by
  have hpreview := firstCharacters_of_count_le h
  have hmem : "OpenVPN config preview: ".toList ++ firstCharacters 200 s ∈
      systemLog (startOpenVPNTunnel (openVPNProvider s)) := List.mem_cons_of_mem _ (List.mem_cons_self ..)
  rwa [hpreview] at hmem

end Blocks

/-! ### A key that is logged -/

section Examples

open scoped FreeVPN.Foundation.Ascii

/-- A profile with a key behind its first line. -/
def keyProfile (line key : Text) : Text := joined ['\n'] [line, "<key>".toList, key, "</key>".toList]

lemma sameButBlocks_keyProfile {line : Text} (hline : '\n' ∉ line) :
    SameButBlocks (textLines (keyProfile line ['A'])) (textLines (keyProfile line ['B'])) := by
  have hlines : ∀ key : Text, '\n' ∉ key →
      textLines (keyProfile line key) = [line, "<key>".toList, key, "</key>".toList] := by
    intro key hkey
    refine List.splitOn_intercalate '\n' ?_ (List.cons_ne_nil _ _)
    simp only [List.forall_mem_cons]
    exact ⟨hline, by decide, hkey, by decide, nofun⟩
  have hopen : Opens "key".toList "<key>".toList := by
    constructor
    · decide
    · decide +kernel
  have hclose : Closes "key".toList "</key>".toList := by
    unfold Closes
    decide +kernel
  have hcontent : SameContent ['A'] ['B'] := ⟨by unfold IsContent; decide, by unfold IsContent; decide, by decide⟩
  rw [hlines ['A'] (by decide), hlines ['B'] (by decide)]
  exact .line line (.block hopen hclose (.cons hcontent .nil) .nil)

/-- A key near the beginning is in the preview. -/
theorem not_startOpenVPNTunnel_preview :
    ¬∀ s t : Text, SameButBlocks (textLines s) (textLines t) →
      tunnelLog (startOpenVPNTunnel (openVPNProvider s)) = tunnelLog (startOpenVPNTunnel (openVPNProvider t)) ∧
        systemLog (startOpenVPNTunnel (openVPNProvider s)) =
          systemLog (startOpenVPNTunnel (openVPNProvider t)) := by
  intro h
  have hlog : systemLog (startOpenVPNTunnel (openVPNProvider (keyProfile "client".toList ['A']))) ≠
      systemLog (startOpenVPNTunnel (openVPNProvider (keyProfile "client".toList ['B']))) := by decide +kernel
  exact hlog (h _ _ (sameButBlocks_keyProfile (by decide))).2

/-- One behind a long comment is not. -/
theorem startOpenVPNTunnel_longComment :
    tunnelLog (startOpenVPNTunnel (openVPNProvider (keyProfile (List.replicate 200 '#') ['A']))) =
        tunnelLog (startOpenVPNTunnel (openVPNProvider (keyProfile (List.replicate 200 '#') ['B']))) ∧
      systemLog (startOpenVPNTunnel (openVPNProvider (keyProfile (List.replicate 200 '#') ['A']))) =
        systemLog (startOpenVPNTunnel (openVPNProvider (keyProfile (List.replicate 200 '#') ['B']))) := by
  have hline : '\n' ∉ List.replicate 200 '#' := by
    intro hmem
    cases List.eq_of_mem_replicate hmem
  refine (startOpenVPNTunnel_eq_iff (sameButBlocks_keyProfile hline)).2 ?_
  exact firstCharacters_congr (by decide +kernel) _ _

end Examples

end FreeVPN.OpenVPN
