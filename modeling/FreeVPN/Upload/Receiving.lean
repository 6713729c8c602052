import FreeVPN.Foundation.Utf8
import FreeVPN.Upload.ProfileServer

/-!
# Receiving an upload

`handleConnection`, `handlePostRequest` and `readRemainingBody` of `ProfileServer.swift`: a request
comes in chunks, each of which is handed to the handler that waits for it.  Every handler makes a text
of its own chunk.

* `cutDoesNotMatter_iff` — how an upload may be cut into chunks;
* `neverTraps_iff` — when no handler force-unwraps nil.
-/

namespace FreeVPN.Upload

open FreeVPN.Lib FreeVPN.Foundation

/-! ### The handlers -/

/-- The end of a header block. -/
def headerEnd : Text := "\r\n\r\n".toList

/-- `components(separatedBy: "\r\n")` -/
def crlfComponents : Text → List Text
  | '\r' :: '\n' :: s => [] :: crlfComponents s
  | c :: s => (crlfComponents s).modifyHead (c :: ·)
  | [] => [[]]

/-- A line is a `Content-Length` field. -/
def isContentLength (line : Text) : Bool := hasPrefix (lowercased line) "content-length:".toList

/-- `extractContentLength` -/
def extractContentLength (request : Text) : ℤ :=
  match (crlfComponents request).find? isContentLength with
  | some line => (parseInt (trimWhitespaces (line.drop "content-length:".length))).getD 0
  | none => 0

/-- A handler that waits for data, with what it has captured. -/
inductive Handler
  | handleConnection
  | handlePostRequest (initialData : Bytes)
  | readRemainingBody (existingBody : Text) (remaining : ℤ)
  deriving DecidableEq

/-- What the handlers do in the end. -/
inductive Effect
  | sendUploadPage
  | processUploadBody (body : Text)
  | cancel
  /-- Nil is force-unwrapped. -/
  | trap
  deriving DecidableEq

/-- What a handler does with a chunk: it calls `receive` again, or it is done. -/
inductive Outcome
  | receive (handler : Handler)
  | done (effect : Effect)

/-- `handlePostRequest`, up to its `receive`.  Its parameter `request` is not used. -/
def handlePostRequest (initialData : Bytes) : Outcome :=
  let fullRequest := (decodeUtf8 initialData).getD []
  let contentLength := extractContentLength fullRequest
  match cutAt headerEnd fullRequest with
  | some (_, body) =>
    let bodyBytes : ℤ := (utf8 body).length
    if bodyBytes ≥ contentLength then .done (.processUploadBody body)
    else .receive (.readRemainingBody body (contentLength - bodyBytes))
  | none => .receive (.handlePostRequest initialData)

/-- The closures that are given to `receive`; there is no data when the connection is closed. -/
def Handler.receive : Handler → Option Bytes → Outcome
  | _, none => .done .cancel
  | .handleConnection, some data =>
    if hasPrefix ((decodeUtf8 data).getD []) "POST".toList then Upload.handlePostRequest data
    else .done .sendUploadPage
  | .handlePostRequest initialData, some data =>
    match decodeUtf8 initialData, decodeUtf8 data with
    | some _, some _ => Upload.handlePostRequest (initialData ++ data)
    | _, _ => .done .trap
  | .readRemainingBody existingBody remaining, some data =>
    match decodeUtf8 data with
    | none => .done .cancel
    | some chunk =>
      if remaining - data.length ≤ 0 then .done (.processUploadBody (existingBody ++ chunk))
      else .receive (.readRemainingBody (existingBody ++ chunk) (remaining - data.length))

/-- What is done while data come in, each for the handler that waits then. -/
def Handler.effects (handler : Handler) : List (Option Bytes) → List Effect
  | [] => []
  | data :: rest =>
    match handler.receive data with
    | .done effect => [effect]
    | .receive next => next.effects rest

/-- What is done with a connection on which chunks come in. -/
def effects (chunks : List Bytes) : List Effect := Handler.handleConnection.effects (chunks.map some)

/-- What is done after a handler has been called. -/
def Outcome.effects : Outcome → List (Option Bytes) → List Effect
  | .done effect, _ => [effect]
  | .receive handler, rest => handler.effects rest

lemma Handler.effects_cons (handler : Handler) (data : Option Bytes) (rest : List (Option Bytes)) :
    handler.effects (data :: rest) = (handler.receive data).effects rest := by
  rw [Handler.effects]
  cases handler.receive data <;> rfl

/-! ### The length of the body -/

lemma crlfComponents_ne_nil (s : Text) : crlfComponents s ≠ [] := by
  induction s using crlfComponents.induct with
  | case1 s ih => simp [crlfComponents]
  | case2 c s hc ih =>
    rw [crlfComponents]
    · simpa using ih
    · exact hc
  | case3 => simp [crlfComponents]

lemma crlfComponents_append (s t : Text) :
    crlfComponents (s ++ '\r' :: '\n' :: t) = crlfComponents s ++ crlfComponents t := by
  induction s using crlfComponents.induct with
  | case1 s ih => exact congrArg ([] :: ·) ih
  | case2 c s hc ih =>
    -- what follows does not complete a separator
    have hc' : ∀ u, c = '\r' → s ++ '\r' :: '\n' :: t = '\n' :: u → False := by
      intro u hr hu
      cases s with
      | nil => cases hu
      | cons d s => exact hc s hr (congrArg (· :: s) (List.cons.inj hu).1)
    obtain ⟨l, ls, hls⟩ := List.exists_cons_of_ne_nil (crlfComponents_ne_nil s)
    rw [List.cons_append, crlfComponents, crlfComponents, ih, hls]
    · rfl
    · exact hc
    · exact hc'
  | case3 => rfl

/-- The field of the head is found, whatever the body. -/
lemma extractContentLength_head (head body : Text) :
    extractContentLength (head ++ headerEnd ++ body) =
      if (crlfComponents head).any isContentLength then extractContentLength head
      else extractContentLength body := by
  have hsplit : crlfComponents (head ++ headerEnd ++ body) =
      crlfComponents head ++ [] :: crlfComponents body := by
    rw [List.append_assoc]
    exact (crlfComponents_append head ('\r' :: '\n' :: body)).trans
      (congrArg (crlfComponents head ++ ·) (crlfComponents_append [] body))
  have hempty : isContentLength [] = false := by decide
  unfold extractContentLength
  rw [hsplit, List.find?_append, List.find?_cons_of_neg (by simp [hempty])]
  cases hfind : (crlfComponents head).find? isContentLength with
  | some line => 
    have hany : (crlfComponents head).any isContentLength = true := by
      exact List.any_eq_true.2 ⟨line, List.mem_of_find?_eq_some hfind, List.find?_some hfind⟩
    simp [hany]
  | none =>
    have hany : (crlfComponents head).any isContentLength = false := by
      simpa using hfind
    simp [hany]

/-! ### Uploads -/

/-- A request to upload something: `POST` and a blank, the end of the header block, which has a `Content-Length`
field with the number of bytes of the body. -/
structure IsUpload (text head body : Text) : Prop where
  post : "POST ".toList <+: text
  cut : cutAt headerEnd text = some (head, body)
  contentLength : extractContentLength head = (utf8 body).length

/-- The field counts when all of the head has come in. -/
lemma IsUpload.extractContentLength {t rest head body u v : Text} (h : IsUpload (t ++ rest) head body)
    (ht : cutAt headerEnd t = some (u, v)) :
    body = v ++ rest ∧ extractContentLength t = (utf8 body).length := by
  have hcut := cutAt_append ht rest
  rw [h.cut] at hcut
  obtain ⟨rfl, rfl⟩ := Prod.mk.inj (Option.some.inj hcut)
  refine ⟨rfl, ?_⟩
  rw [eq_of_cutAt ht, extractContentLength_head, ← h.contentLength]
  split_ifs with hany
  · rfl
  · -- no field: the body is empty
    have hzero : Upload.extractContentLength head = 0 := by
      unfold Upload.extractContentLength
      rw [List.find?_eq_none.2 (by simpa using hany)]
    have hbody := h.contentLength
    rw [hzero] at hbody
    have hnil : v ++ rest = [] := by
      rw [← utf8_eq_nil, ← List.length_eq_zero_iff]
      omega
    rw [(List.append_eq_nil_iff.1 hnil).1, hzero]
    rfl

/-- The chunks of a text: what has been read of them is the beginning of the text. -/
lemma exists_rest {u t : Text} {data : Bytes} (h : utf8 u ++ data = utf8 t) :
    ∃ rest, t = u ++ rest ∧ data = utf8 rest := by
  obtain ⟨rest, rfl⟩ := prefix_of_utf8_append h
  rw [utf8_append, List.append_cancel_left_eq] at h
  exact ⟨rest, rfl, h⟩

/-- The chunks are not empty. -/
def NonEmpty (chunks : List Bytes) : Prop := ∀ c ∈ chunks, c ≠ []

lemma NonEmpty.eq_nil {chunks : List Bytes} (h : NonEmpty chunks) (hflat : chunks.flatten = []) :
    chunks = [] := by
  cases chunks with
  | nil => rfl
  | cons c cs => exact absurd (List.append_eq_nil_iff.1 hflat).1 (h c (List.mem_cons_self ..))

/-- **The body** comes in whole if and only if every chunk is read. -/
lemma effects_readRemainingBody {chunks : List Bytes} (hne : NonEmpty chunks) {rest : Text}
    (hflat : chunks.flatten = utf8 rest) (hrest : rest ≠ []) (existingBody : Text) :
    (Handler.readRemainingBody existingBody (utf8 rest).length).effects (chunks.map some) =
        [.processUploadBody (existingBody ++ rest)] ↔
      ∀ c ∈ chunks, (decodeUtf8 c).isSome := by
  induction chunks generalizing rest existingBody with
  | nil => exact absurd (utf8_eq_nil.1 hflat.symm) hrest
  | cons c cs ih =>
    obtain ⟨-, hcs⟩ := List.forall_mem_cons.1 hne
    rw [List.map_cons, Handler.effects_cons, List.forall_mem_cons]
    cases hc : decodeUtf8 c with
    | none => simp [Handler.receive, hc, Outcome.effects]
    | some u =>
      obtain rfl := decodeUtf8_eq_some.1 hc
      obtain ⟨rest, rfl, hcs'⟩ := exists_rest hflat
      rw [and_iff_right Option.isSome_some, Handler.receive, hc]
      dsimp only
      by_cases hnil : rest = []
      · subst hnil
        obtain rfl := NonEmpty.eq_nil hcs hcs'
        simp [Outcome.effects]
      · have hpos : 0 < (utf8 rest).length := List.length_pos_iff.2 fun h => hnil (utf8_eq_nil.1 h)
        have hremaining : ((utf8 (u ++ rest)).length : ℤ) - (utf8 u).length = (utf8 rest).length := by
          rw [utf8_append, List.length_append]
          omega
        rw [hremaining, if_neg (by omega), Outcome.effects, ← List.append_assoc]
        exact ih hcs hcs' hnil _

section Header

variable {chunks : List Bytes} {t rest head body : Text}

lemma handlePostRequest_utf8 (t : Text) :
    handlePostRequest (utf8 t) = match cutAt headerEnd t with
      | some (_, body) =>
        if ((utf8 body).length : ℤ) ≥ extractContentLength t then .done (.processUploadBody body)
        else .receive (.readRemainingBody body (extractContentLength t - (utf8 body).length))
      | none => .receive (.handlePostRequest (utf8 t)) := by
  rw [handlePostRequest, decodeUtf8_utf8]
  rfl

/-- When all of the head has come in, the body is what is behind it. -/
lemma effects_of_cutAt (hne : NonEmpty chunks) (h : IsUpload (t ++ rest) head body)
    (hflat : chunks.flatten = utf8 rest) {u v : Text} (ht : cutAt headerEnd t = some (u, v)) :
    (handlePostRequest (utf8 t)).effects (chunks.map some) = [.processUploadBody body] ↔
      ∀ c ∈ chunks, (decodeUtf8 c).isSome := by
  obtain ⟨rfl, hlength⟩ := h.extractContentLength ht
  rw [handlePostRequest_utf8, ht]
  dsimp only
  rw [hlength, utf8_append, List.length_append]
  by_cases hrest : rest = []
  · subst hrest
    obtain rfl := hne.eq_nil hflat
    simp [Outcome.effects]
  · have hpos : 0 < (utf8 rest).length := List.length_pos_iff.2 fun h => hrest (utf8_eq_nil.1 h)
    have hremaining : ((((utf8 v).length + (utf8 rest).length : ℕ)) : ℤ) - (utf8 v).length =
        (utf8 rest).length := by omega
    rw [if_neg (by omega), hremaining]
    exact effects_readRemainingBody hne hflat hrest v

/-- **An upload** is processed if and only if every chunk is read. -/
lemma effects_handlePostRequest (hne : NonEmpty chunks) (h : IsUpload (t ++ rest) head body)
    (hflat : chunks.flatten = utf8 rest) :
    (handlePostRequest (utf8 t)).effects (chunks.map some) = [.processUploadBody body] ↔
      ∀ c ∈ chunks, (decodeUtf8 c).isSome := by
  induction chunks generalizing t rest with
  | nil =>
    -- nothing is left to come
    have hrest : rest = [] := utf8_eq_nil.1 hflat.symm
    subst hrest
    refine effects_of_cutAt hne h hflat (u := head) (v := body) ?_
    rw [← List.append_nil t]
    exact h.cut
  | cons c cs ih =>
    cases ht : cutAt headerEnd t with
    | some r => exact effects_of_cutAt hne h hflat ht
    | none =>
      obtain ⟨-, hcs⟩ := List.forall_mem_cons.1 hne
      rw [handlePostRequest_utf8, ht, List.map_cons, Outcome.effects, Handler.effects_cons,
        List.forall_mem_cons, Handler.receive, decodeUtf8_utf8]
      cases hc : decodeUtf8 c with
      | none => simp [Outcome.effects]
      | some u =>
        obtain rfl := decodeUtf8_eq_some.1 hc
        obtain ⟨rest, rfl, hcs'⟩ := exists_rest hflat
        rw [and_iff_right Option.isSome_some]
        dsimp only
        rw [← utf8_append]
        exact ih hcs (by rwa [List.append_assoc]) hcs'

end Header

/-- Chunks as `receive` delivers them. -/
structure IsCutting (data : Bytes) (chunks : List Bytes) : Prop where
  flatten : chunks.flatten = data
  length : ∀ c ∈ chunks, 1 ≤ c.length ∧ c.length ≤ 65536

/-- The first chunk has all of `POST`, and no chunk ends in the middle of a scalar. -/
def IsRead (chunks : List Bytes) : Prop :=
  (∀ c ∈ chunks.head?, "POST".length ≤ c.length) ∧ ∀ c ∈ chunks, (decodeUtf8 c).isSome

/-- A beginning of a request has all of `POST` if it has as many bytes. -/
lemma post_prefix_iff {u text : Text} (hu : u <+: text) (hpost : "POST".toList <+: text) :
    "POST".toList <+: u ↔ "POST".length ≤ (utf8 u).length := by
  have hfour : "POST".toList.length = 4 ∧ (utf8 "POST".toList).length = 4 := by decide
  constructor
  · intro h
    exact h.length_le.trans (length_le_length_utf8 u)
  · intro h
    apply List.prefix_of_prefix_length_le hpost hu
    by_contra hshort
    -- a shorter beginning is one of `POST`, and has less bytes
    obtain ⟨w, hw⟩ := List.prefix_of_prefix_length_le hu hpost (by omega)
    have hlength := congrArg List.length hw
    have hbytes := congrArg (fun s => (utf8 s).length) hw
    simp only [utf8_append, List.length_append] at hlength hbytes
    have hle := length_le_length_utf8 w
    change 4 ≤ (utf8 u).length at h
    omega

/-- What is done with an upload that comes in chunks. -/
lemma effects_eq_iff {text head body : Text} (h : IsUpload text head body) {chunks : List Bytes}
    (hchunks : IsCutting (utf8 text) chunks) :
    effects chunks = [.processUploadBody body] ↔ IsRead chunks := by
  have hne : NonEmpty chunks := by
    intro c hc hnil
    have hlength := (hchunks.length c hc).1
    rw [hnil] at hlength
    cases hlength
  cases chunks with
  | nil =>
    have htext : text = [] := utf8_eq_nil.1 hchunks.flatten.symm
    have hpost := h.post
    rw [htext] at hpost
    cases List.prefix_nil.1 hpost
  | cons c cs =>
    obtain ⟨-, hcs⟩ := List.forall_mem_cons.1 hne
    rw [effects, List.map_cons, Handler.effects_cons, IsRead, List.forall_mem_cons, Handler.receive]
    cases hc : decodeUtf8 c with
    | none =>
      have hpost : hasPrefix ((none : Option Text).getD []) "POST".toList = false := rfl
      rw [hpost, if_neg Bool.false_ne_true]
      exact iff_of_false (by simp [Outcome.effects]) (by simp)
    | some u =>
      obtain rfl := decodeUtf8_eq_some.1 hc
      obtain ⟨rest, rfl, hflat⟩ := exists_rest hchunks.flatten
      have hpost : hasPrefix u "POST".toList = true ↔ "POST".length ≤ (utf8 u).length := by
        rw [hasPrefix_eq_true]
        exact post_prefix_iff (List.prefix_append u rest) ((List.prefix_append _ [' ']).trans h.post)
      simp only [Option.getD_some, Option.isSome_some, true_and, List.head?_cons, Option.mem_def,
        Option.some.injEq, forall_eq']
      by_cases hfirst : hasPrefix u "POST".toList = true
      · rw [if_pos hfirst, and_iff_right (hpost.1 hfirst)]
        exact effects_handlePostRequest hcs h hflat
      · rw [if_neg hfirst]
        exact iff_of_false (by simp [Outcome.effects]) fun hread => hfirst (hpost.2 hread.1)

/-- **When it does not matter how an upload is cut**: its body is processed once, for both of two
cuttings, if and only if both have all of `POST` in the first chunk, and no end of a chunk in the middle
of a scalar. -/
theorem cutDoesNotMatter_iff {text head body : Text} (h : IsUpload text head body)
    {chunks chunks' : List Bytes} (hchunks : IsCutting (utf8 text) chunks)
    (hchunks' : IsCutting (utf8 text) chunks') :
    effects chunks = [.processUploadBody body] ∧ effects chunks' = [.processUploadBody body] ↔
      IsRead chunks ∧ IsRead chunks' :=
  and_congr (effects_eq_iff h hchunks) (effects_eq_iff h hchunks')

/-- A body of one scalar with two bytes, which come in two chunks. -/
theorem not_cutDoesNotMatter_twoBytes :
    ¬∀ (text head body : Text) (chunks chunks' : List Bytes), IsUpload text head body →
      IsCutting (utf8 text) chunks → IsCutting (utf8 text) chunks' →
      effects chunks = [.processUploadBody body] ∧ effects chunks' = [.processUploadBody body] := by
  intro h
  let head := "POST / HTTP/1.1\r\nContent-Length: 2".toList
  have hupload : IsUpload (head ++ headerEnd ++ ['é']) head ['é'] :=
    ⟨by decide +kernel, by decide +kernel, by decide +kernel⟩
  have hcut : IsCutting (utf8 (head ++ headerEnd ++ ['é'])) [utf8 (head ++ headerEnd) ++ [0xC3], [0xA9]] :=
    ⟨by decide +kernel, by decide +kernel⟩
  have hpage : effects [utf8 (head ++ headerEnd) ++ [0xC3], [0xA9]] = [.sendUploadPage] := by decide +kernel
  have hprocessed := (h _ _ _ _ _ hupload hcut hcut).1
  rw [hpage] at hprocessed
  cases hprocessed

theorem cutDoesNotMatter_headFirst :
    effects [utf8 "POST / HTTP/1.1\r\nContent-Length: 1\r\n\r\n".toList, utf8 ['a']] =
        [.processUploadBody ['a']] ∧
      effects [utf8 "POST / HTTP/1.1\r\nContent-Length: 1\r\n\r\na".toList] = [.processUploadBody ['a']] := by
  have hupload : IsUpload "POST / HTTP/1.1\r\nContent-Length: 1\r\n\r\na".toList
      "POST / HTTP/1.1\r\nContent-Length: 1".toList ['a'] :=
    ⟨by decide +kernel, by decide +kernel, by decide +kernel⟩
  exact (cutDoesNotMatter_iff hupload ⟨by decide +kernel, by decide +kernel⟩
    ⟨by decide +kernel, by decide +kernel⟩).2 ⟨⟨by decide +kernel, by decide +kernel⟩,
      ⟨by decide +kernel, by decide +kernel⟩⟩

/-! ### Forced decodes -/

lemma trap_notMem_readRemainingBody (chunks : List Bytes) (existingBody : Text) (remaining : ℤ) :
    Effect.trap ∉ (Handler.readRemainingBody existingBody remaining).effects (chunks.map some) := by
  induction chunks generalizing existingBody remaining with
  | nil => simp [Handler.effects]
  | cons c cs ih =>
    rw [List.map_cons, Handler.effects_cons, Handler.receive]
    cases decodeUtf8 c with
    | none => simp [Outcome.effects]
    | some u =>
      dsimp only
      split_ifs
      · simp [Outcome.effects]
      · exact ih _ _

/-- From the end of the header block on nothing is forced. -/
lemma trap_notMem_of_cutAt {t u v : Text} (ht : cutAt headerEnd t = some (u, v)) (chunks : List Bytes) :
    Effect.trap ∉ (handlePostRequest (utf8 t)).effects (chunks.map some) := by
  rw [handlePostRequest_utf8, ht]
  dsimp only
  split_ifs
  · simp [Outcome.effects]
  · apply trap_notMem_readRemainingBody

/-- While the end of the header block has not come in, each chunk has to be read. -/
lemma trap_notMem_handlePostRequest (chunks : List Bytes) (t : Text) :
    Effect.trap ∉ (handlePostRequest (utf8 t)).effects (chunks.map some) ↔
      ∀ (texts : List Text) (d : Bytes) (rest : List Bytes), chunks = texts.map utf8 ++ d :: rest →
        ¬headerEnd <:+: t ++ texts.flatten → (decodeUtf8 d).isSome := by
  induction chunks generalizing t with
  | nil =>
    refine iff_of_true ?_ ?_
    · cases ht : cutAt headerEnd t with
      | some r => exact trap_notMem_of_cutAt ht []
      | none => simp [handlePostRequest_utf8, ht, Outcome.effects, Handler.effects]
    · intro texts d rest hnil
      simp at hnil
  | cons c cs ih =>
    cases ht : cutAt headerEnd t with
    | some r =>
      refine iff_of_true (trap_notMem_of_cutAt ht _) ?_
      intro texts d rest _ hno
      rw [eq_of_cutAt ht] at hno
      exact absurd ((List.infix_append ..).trans (List.prefix_append ..).isInfix) hno
    | none =>
      have hno := cutAt_eq_none.1 ht
      rw [handlePostRequest_utf8, ht, List.map_cons, Outcome.effects, Handler.effects_cons, Handler.receive,
        decodeUtf8_utf8]
      cases hc : decodeUtf8 c with
      | none =>
        refine iff_of_false (by simp [Outcome.effects]) fun h => ?_
        have hsome := h [] c cs rfl (by simpa using hno)
        rw [hc] at hsome
        cases hsome
      | some u =>
        obtain rfl := decodeUtf8_eq_some.1 hc
        dsimp only
        rw [← utf8_append, ih]
        constructor
        · intro h texts d rest heq hinfix
          cases texts with
          | nil =>
            obtain ⟨rfl, -⟩ := List.cons.inj heq
            rw [hc, Option.isSome_some]
          | cons u' texts =>
            obtain ⟨huu, hcs⟩ := List.cons.inj heq
            obtain rfl := utf8_inj.1 huu
            exact h texts d rest hcs (by rwa [List.append_assoc])
        · intro h texts d rest hcs hinfix
          rw [List.append_assoc] at hinfix
          exact h (u :: texts) d rest (congrArg (utf8 u :: ·) hcs) hinfix

/-- **When no handler force-unwraps nil**: whenever the chunks so far are those of texts, the first of
which begins with `POST`, and have no end of a header block, the next chunk is that of a text, too. -/
theorem neverTraps_iff (chunks : List Bytes) :
    Effect.trap ∉ effects chunks ↔
      ∀ (t : Text) (texts : List Text) (d : Bytes) (rest : List Bytes),
        chunks = utf8 t :: texts.map utf8 ++ d :: rest → "POST".toList <+: t →
        ¬headerEnd <:+: (t :: texts).flatten → (decodeUtf8 d).isSome := by
  cases chunks with
  | nil => simp [effects, Handler.effects]
  | cons c cs =>
    rw [effects, List.map_cons, Handler.effects_cons, Handler.receive]
    by_cases hpost : hasPrefix ((decodeUtf8 c).getD []) "POST".toList = true
    · obtain ⟨t, ht, hpre⟩ : ∃ t, decodeUtf8 c = some t ∧ hasPrefix t "POST".toList = true := by
        cases hc : decodeUtf8 c with
        | none =>
          rw [hc] at hpost
          cases hpost
        | some t => exact ⟨t, rfl, by simpa [hc] using hpost⟩
      obtain rfl := decodeUtf8_eq_some.1 ht
      rw [if_pos hpost, trap_notMem_handlePostRequest]
      constructor
      · intro h t' texts d rest heq _ hno
        obtain ⟨htt, hcs⟩ := List.cons.inj heq
        obtain rfl := utf8_inj.1 htt
        exact h texts d rest hcs hno
      · intro h texts d rest hcs hno
        exact h t texts d rest (congrArg (utf8 t :: ·) hcs) (hasPrefix_eq_true.1 hpre) hno
    · rw [if_neg hpost]
      refine iff_of_true (by simp [Outcome.effects]) ?_
      intro t texts d rest heq hpre
      obtain ⟨rfl, -⟩ := List.cons.inj heq
      rw [decodeUtf8_utf8] at hpost
      exact absurd (hasPrefix_eq_true.2 hpre) hpost

/-- A byte that is in no text, behind `POST`. -/
theorem not_neverTraps_invalidByte :
    ¬∀ chunks : List Bytes, (∀ c ∈ chunks, 1 ≤ c.length ∧ c.length ≤ 65536) → Effect.trap ∉ effects chunks := by
  intro h
  have htrap : effects [utf8 "POST".toList, [0xFF]] = [.trap] := by decide +kernel
  have hno := h [utf8 "POST".toList, [0xFF]] (by decide +kernel)
  rw [htrap] at hno
  exact hno (List.mem_singleton_self _)

end FreeVPN.Upload
