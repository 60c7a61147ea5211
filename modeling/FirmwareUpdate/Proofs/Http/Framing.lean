import FirmwareUpdate.Http.Head
import FirmwareUpdate.Http.Request
import FirmwareUpdate.Proofs.Metadata.Writing
import FirmwareUpdate.Proofs.Text.Split

/-!
# The framing of requests

A request is to be one head: a request line, a line with the host, and an empty line, and the
request line is to have three words. The host and the path are put in as they are given. With a
line end in one of them the head has other lines, and then another request may have the same
bytes; with a space in the path the request line has more than three words. The path that is
known from metadata has no line ends, but it may have spaces.

The main statement is `framed_iff`.
-/

namespace FirmwareUpdate.Request

/-- What follows the path in the request line. -/
def version : List Char := "HTTP/1.1".toList

/-- What precedes the host in its line. -/
def hostMark : List Char := "Host: ".toList

variable (request : Request)

/-- The request line. -/
def requestLine : List Char :=
  method.toList ++ ' ' :: (request.path.toList ++ ' ' :: version)

/-- The line with the host. -/
def hostLine : List Char :=
  hostMark ++ request.host.toList

/-- The lines of the head that bytes are, unless something follows the first empty line. -/
def headLines? (bytes : Bytes) : Option (List (List Char)) :=
  match Text.splitAtFirst Head.terminator bytes with
  | some (head, []) => some (Text.splitHead (Utf8.decodeLossy head))
  | _ => none

/-- The bytes of the request are one head with its two lines. -/
def IsHead : Prop :=
  headLines? request.bytes = some [request.requestLine, request.hostLine]

/-- The bytes of the request are one head, and the request line has three words. -/
structure Framed : Prop where
  isHead : request.IsHead
  words : Text.splitOn ' ' request.requestLine
    = [method.toList, request.path.toList, version]

/-- The request that the lines of a head spell. -/
def ofLines? : List (List Char) → Option Request
  | [requestLine, hostLine] => do
    let host ← hostMark.isPrefixOf? hostLine
    match Text.splitOn ' ' requestLine with
    | [first, path, last] =>
      if first = method.toList ∧ last = version then
        (get (String.ofList host) (String.ofList path)).toOption
      else none
    | _ => none
  | _ => none

/-- The request that bytes spell. -/
def ofBytes? (bytes : Bytes) : Option Request :=
  (headLines? bytes).bind ofLines?

/-! ### The text of a request -/

theorem toList_text :
  request.text.toList
    = (request.requestLine ++ (Text.lineEnd ++ request.hostLine))
      ++ (Text.lineEnd ++ (Text.lineEnd ++ []))
  := by
  simp only [text, String.toList_append, requestLine, hostLine, List.append_assoc,
    List.cons_append]
  rfl

/-- The bytes are those of the two lines and what ends a head. -/
theorem bytes_eq :
  request.bytes
    = Utf8.encode (request.requestLine ++ (Text.lineEnd ++ request.hostLine)) ++ Head.terminator
  := by
  rw [bytes, utf8, toList_text, Utf8.encode_append]
  rfl

/-- The lines of the whole text: those of the request line, those of the host, and two that are
empty. -/
theorem splitHead_text :
  Text.splitHead request.text.toList
    = (Text.splitHead request.requestLine ++ Text.splitHead request.hostLine) ++ [[], []]
  := by
  rw [toList_text, Text.splitHead_append_lineEnd, Text.splitHead_append_lineEnd]
  rfl

/-- There are line ends in the two lines only where they are in the path and the host. -/
theorem infix_requestLine_iff :
  Text.lineEnd <:+: request.requestLine ↔ Text.lineEnd <:+: request.path.toList
  := by
  have hbefore : '\r' ∉ method.toList ++ [' '] := by decide
  have hafter : '\n' ∉ ' ' :: version := by decide
  have hline : request.requestLine
      = (method.toList ++ [' ']) ++ (request.path.toList ++ ' ' :: version) := by
    simp [requestLine]
  rw [hline, Text.infix_append_left_iff hbefore, Text.infix_append_right_iff hafter]

theorem infix_hostLine_iff :
  Text.lineEnd <:+: request.hostLine ↔ Text.lineEnd <:+: request.host.toList
  := Text.infix_append_left_iff (by decide)

/-- Two texts make up two lines only if each of them is one. -/
theorem lines_of_pair {first second line next : List Char}
    (h : Text.splitHead first ++ Text.splitHead second = [line, next]) :
  Text.splitHead first = [line] ∧ Text.splitHead second = [next]
  := by
  obtain ⟨a, as, has⟩ := List.exists_cons_of_ne_nil (Text.splitHead_ne_nil first)
  obtain ⟨b, bs, hbs⟩ := List.exists_cons_of_ne_nil (Text.splitHead_ne_nil second)
  rw [has, hbs] at h ⊢
  cases as with
  | nil => simpa using h
  | cons a' as => simp at h

/-! ### Heads -/

/-- In a text of two lines and two empty ones, what follows the first empty line is empty. -/
theorem eq_nil_of_lines {before after line next : List Char} (hnext : next ≠ [])
    (h : Text.splitHead (before ++ (Text.lineEnd ++ (Text.lineEnd ++ after)))
      = [line, next, [], []]) :
  after = []
  := by
  rw [Text.splitHead_append_lineEnd, ← List.nil_append (Text.lineEnd ++ after),
    Text.splitHead_append_lineEnd] at h
  obtain ⟨a, as, has⟩ := List.exists_cons_of_ne_nil (Text.splitHead_ne_nil before)
  obtain ⟨b, bs, hbs⟩ := List.exists_cons_of_ne_nil (Text.splitHead_ne_nil after)
  have hempty : Text.splitHead after = [[]] := by
    rw [has, hbs] at h
    change a :: (as ++ [] :: b :: bs) = _ at h
    obtain ⟨-, h⟩ := List.cons.inj h
    match as, h with
    | [], h => exact absurd (List.cons.inj h).1.symm hnext
    | [_], h =>
        rw [hbs]
        exact (List.cons.inj (List.cons.inj h).2).2
    | [_, _], h => simp at h
    | _ :: _ :: _ :: _, h => simp at h
  exact (Text.splitHead_eq_singleton_iff.mp hempty).1

theorem hostLine_ne : request.hostLine ≠ [] := by
  rintro ⟨⟩

/-- A request without line ends in its parts ends at its first empty line. -/
theorem splitAtFirst_bytes (hpath : ¬ Text.lineEnd <:+: request.path.toList)
    (hhost : ¬ Text.lineEnd <:+: request.host.toList) :
  Text.splitAtFirst Head.terminator request.bytes
    = some (Utf8.encode (request.requestLine ++ (Text.lineEnd ++ request.hostLine)), [])
  := by
  have hlines : Text.splitHead request.text.toList
      = [request.requestLine, request.hostLine, [], []] := by
    rw [splitHead_text, Text.splitHead_of_oneLine (request.infix_requestLine_iff.not.mpr hpath),
      Text.splitHead_of_oneLine (request.infix_hostLine_iff.not.mpr hhost)]
    rfl
  apply (Text.splitAtFirst_eq_some_iff (by decide)).mpr
  refine ⟨by rw [bytes_eq, List.append_nil], ?_⟩
  -- an earlier end would be followed by a text that is not empty
  rintro ⟨before, after, hearlier⟩
  have hbytes : utf8 request.text = before ++ 13 :: ([] ++ 10 :: ([] ++ 13 :: ([] ++ 10 ::
      (after ++ 10 :: [])))) := by
    have hlast : Head.terminator = Head.terminator.dropLast ++ [10] := rfl
    rw [← bytes, bytes_eq, hlast, ← List.append_assoc, ← hearlier]
    simp [Head.terminator]
  have htext : request.text.toList = Utf8.decodeLossy before
      ++ (Text.lineEnd ++ (Text.lineEnd ++ (Utf8.decodeLossy after ++ ['\n']))) := by
    rw [← Utf8.decodeLossy_utf8, hbytes, Utf8.decodeLossy_append_ascii (by decide),
      Utf8.decodeLossy_append_ascii (by decide), Utf8.decodeLossy_append_ascii (by decide),
      Utf8.decodeLossy_append_ascii (by decide), Utf8.decodeLossy_append_ascii (by decide)]
    rfl
  rw [htext] at hlines
  have hempty := eq_nil_of_lines request.hostLine_ne hlines
  simp at hempty

/-- A request is one head exactly if there is no line end in its parts. -/
theorem isHead_iff :
  request.IsHead
    ↔ ¬ Text.lineEnd <:+: request.path.toList ∧ ¬ Text.lineEnd <:+: request.host.toList
  := by
  have hhead : Text.splitHead (Utf8.decodeLossy
        (Utf8.encode (request.requestLine ++ (Text.lineEnd ++ request.hostLine))))
      = Text.splitHead request.requestLine ++ Text.splitHead request.hostLine := by
    rw [Utf8.decodeLossy_encode, Text.splitHead_append_lineEnd]
  rw [← infix_requestLine_iff, ← infix_hostLine_iff]
  constructor
  · intro h
    unfold IsHead headLines? at h
    split at h
    case h_1 head hcut =>
      have hbytes := Text.append_of_splitAtFirst hcut
      rw [List.append_nil, bytes_eq, List.append_cancel_right_eq] at hbytes
      rw [hbytes, hhead] at h
      obtain ⟨hfirst, hsecond⟩ := lines_of_pair (Option.some.inj h)
      exact ⟨(Text.splitHead_eq_singleton_iff.mp hfirst).2,
        (Text.splitHead_eq_singleton_iff.mp hsecond).2⟩
    case h_2 => cases h
  · rintro ⟨hpath, hhost⟩
    have hcut := request.splitAtFirst_bytes (request.infix_requestLine_iff.not.mp hpath)
      (request.infix_hostLine_iff.not.mp hhost)
    rw [IsHead, headLines?, hcut]
    dsimp only
    rw [hhead, Text.splitHead_of_oneLine hpath, Text.splitHead_of_oneLine hhost]
    rfl

/-- No other request has the bytes of one that is one head. -/
theorem IsHead.eq_of_bytes {request other : Request} (h : request.IsHead)
    (hbytes : other.bytes = request.bytes) :
  other = request
  := by
  obtain ⟨hpath, hhost⟩ := request.isHead_iff.mp h
  have htext : other.text.toList = request.text.toList := Utf8.encode_injective hbytes
  have hlines := congrArg Text.splitHead htext
  rw [splitHead_text, splitHead_text, List.append_cancel_right_eq,
    Text.splitHead_of_oneLine (request.infix_requestLine_iff.not.mpr hpath),
    Text.splitHead_of_oneLine (request.infix_hostLine_iff.not.mpr hhost)] at hlines
  obtain ⟨hfirst, hsecond⟩ := lines_of_pair hlines
  have hpaths : other.path = request.path := by
    have hline := (Text.splitHead_eq_singleton_iff.mp hfirst).1
    rw [requestLine, requestLine, List.append_cancel_left_eq] at hline
    apply String.toList_injective
    simpa using hline
  have hhosts : other.host = request.host := by
    have hline := (Text.splitHead_eq_singleton_iff.mp hsecond).1
    rw [hostLine, hostLine, List.append_cancel_left_eq] at hline
    exact String.toList_injective hline
  cases other
  cases request
  obtain rfl := hpaths
  obtain rfl := hhosts
  rfl

/-! ### Words -/

theorem words_iff :
  Text.splitOn ' ' request.requestLine = [method.toList, request.path.toList, version]
    ↔ ' ' ∉ request.path.toList
  := by
  constructor
  · intro hwords
    apply Text.not_mem_of_mem_splitOn
    rw [hwords]
    exact List.mem_cons_of_mem _ List.mem_cons_self
  · intro h
    have hmethod : ' ' ∉ method.toList := by decide
    have hversion : ' ' ∉ version := by decide
    rw [requestLine, Text.splitOn_append hmethod, Text.splitOn_append h,
      Text.splitOn_of_not_mem hversion]

/-- A request is framed exactly if there is no line end in its parts and no space in its path. -/
theorem framed_iff_parts :
  request.Framed
    ↔ (¬ Text.lineEnd <:+: request.path.toList ∧ ¬ Text.lineEnd <:+: request.host.toList)
      ∧ ' ' ∉ request.path.toList
  := by
  rw [← isHead_iff, ← words_iff]
  exact ⟨fun h => ⟨h.isHead, h.words⟩, fun ⟨hhead, hwords⟩ => ⟨hhead, hwords⟩⟩

theorem get_self : get request.host request.path = .ok request := by
  rw [get, dif_neg request.host_ne, dif_neg request.path_ne]

theorem parts_of_get {host path : String} {request : Request} (h : get host path = .ok request) :
  request.host = host ∧ request.path = path
  := by
  unfold get at h
  split_ifs at h
  obtain ⟨rfl⟩ := h
  exact ⟨rfl, rfl⟩

/-- A framed request is read back. -/
theorem Framed.ofBytes?_bytes {request : Request} (h : request.Framed) :
  ofBytes? request.bytes = some request
  := by
  have hhost : hostMark.isPrefixOf? request.hostLine = some request.host.toList :=
    List.isPrefixOf?_eq_some_iff_append_eq.mpr rfl
  rw [ofBytes?, h.isHead, Option.bind_some, ofLines?, hhost, h.words]
  simp only [Option.bind_eq_bind, Option.bind_some, and_self, if_true, String.ofList_toList,
    get_self]
  rfl

/-! ### Paths from metadata -/

/-- There is no line end in a path that is known from metadata. -/
theorem oneLine_of_file_parse {body : Bytes} {file : ImagePath}
    (h : file ∈ (Metadata.parse body).file) :
  ¬ Text.lineEnd <:+: file.text.toList
  := by
  intro hend
  apply (Metadata.parse_isPlain body file h).not_mem
  exact hend.subset (by simp [Text.lineEnd])

/-- A request for any host and path is framed exactly if there is no line end in either and no
space in the path; it is read back then. For one head with two lines the line ends alone matter,
and no other request has its bytes. A path that is known from metadata has no line ends. -/
theorem framed_iff {host path : String} {request : Request} (h : get host path = .ok request) :
  (request.Framed
      ↔ (¬ Text.lineEnd <:+: path.toList ∧ ¬ Text.lineEnd <:+: host.toList) ∧ ' ' ∉ path.toList)
    ∧ (request.Framed → ofBytes? request.bytes = some request)
    ∧ (request.IsHead ↔ ¬ Text.lineEnd <:+: path.toList ∧ ¬ Text.lineEnd <:+: host.toList)
    ∧ (request.IsHead → ∀ other : Request, other.bytes = request.bytes → other = request)
    ∧ ∀ body, ∀ file ∈ (Metadata.parse body).file, path = file.text →
      ¬ Text.lineEnd <:+: path.toList
  := by
  obtain ⟨rfl, rfl⟩ := parts_of_get h
  refine ⟨request.framed_iff_parts, Framed.ofBytes?_bytes, request.isHead_iff,
    fun hhead _ hbytes => hhead.eq_of_bytes hbytes, ?_⟩
  rintro body file hfile hpath
  rw [hpath]
  exact oneLine_of_file_parse hfile

/-- The request of a device for the image that the metadata name. -/
theorem framed_iff_sample :
  ∃ file request,
    file ∈ (Metadata.parse (utf8 "VERSION=2\nFILE=/fw/v2.bin\n")).file
      ∧ get "updates.example.com" file.text = .ok request
      ∧ request.Framed ∧ ofBytes? request.bytes = some request
  := by
  have hfile : (Metadata.parse (utf8 "VERSION=2\nFILE=/fw/v2.bin\n")).file
      = some ⟨"/fw/v2.bin", by decide⟩ := by decide +kernel
  have hget : get "updates.example.com" "/fw/v2.bin"
      = .ok ⟨"updates.example.com", "/fw/v2.bin", by decide, by decide⟩ := rfl
  obtain ⟨hframed, hread, -⟩ := framed_iff hget
  have h := hframed.mpr (by decide +kernel)
  exact ⟨_, _, hfile, hget, h, hread h⟩

/-- A space in the path that the metadata name makes four words of the request line; and with a
line end in its path, a request has the bytes of a request for another path on another host. -/
theorem framing_broken :
  (∃ file request,
    file ∈ (Metadata.parse (utf8 "VERSION=2\nFILE=/fw/new build.bin\n")).file
      ∧ get "updates.example.com" file.text = .ok request
      ∧ Text.splitOn ' ' request.requestLine
        = ["GET".toList, "/fw/new".toList, "build.bin".toList, "HTTP/1.1".toList])
    ∧ ∃ request other,
      get "c" "/a HTTP/1.1\r\nHost: b" = .ok request
        ∧ get "b HTTP/1.1\r\nHost: c" "/a" = .ok other
        ∧ request.path ≠ other.path ∧ request.host ≠ other.host ∧ request.bytes = other.bytes
  := by
  have hfile : (Metadata.parse (utf8 "VERSION=2\nFILE=/fw/new build.bin\n")).file
      = some ⟨"/fw/new build.bin", by decide⟩ := by decide +kernel
  refine ⟨⟨_, _, hfile, rfl, ?_⟩, _, _, rfl, rfl, ?_, ?_, ?_⟩
  · decide +kernel
  · decide
  · decide
  · decide +kernel

end FirmwareUpdate.Request
