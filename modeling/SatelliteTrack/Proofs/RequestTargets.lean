import Mathlib
import SatelliteTrack.Feed.Client
import SatelliteTrack.Proofs.FormQuery

/-!
# What the message service is asked for

A base address is a scheme, an authority and a path (`BaseAddress`). A request to it names a target: the
path of the messages below that of the address, and a query of the start date and the device.

**The law** (`FeedClient.target_tells_question`): slashes at the end of the address do not matter, whether
they belong to it or are put there; the path is that of the address, without the slashes at its end, and
then that of the messages; and the query reads back as the two pairs, whatever the date and the device
are. So a target tells the question that it was made for.

The path of an address is looked at in the form in which it is sent. An address may hold characters that
are sent in another form than they are written in (`Url.escape`); since only a slash is sent as a slash
(`Url.slash_notMem_escapeChar`), it makes no difference whether the slashes are taken off before or after
that. Segments of one or two dots are left out, since they make two addresses of one path.
-/

namespace SatelliteTrack

/-! ## Slashes at an end -/

/-- A text without the slashes at its end. -/
def withoutSlashes (cs : List Char) : List Char := cs.rdropWhile (· == '/')

theorem FeedClient.trimSlashes_eq (text : String) :
    trimSlashes text = String.ofList (withoutSlashes text.toList) := rfl

theorem withoutSlashes_concat_slash (cs : List Char) : withoutSlashes (cs ++ ['/']) = withoutSlashes cs :=
  List.rdropWhile_concat_pos _ cs '/' rfl

theorem withoutSlashes_concat {c : Char} (h : c ≠ '/') (cs : List Char) :
    withoutSlashes (cs ++ [c]) = cs ++ [c] :=
  List.rdropWhile_concat_neg _ cs c (by simpa using h)

theorem withoutSlashes_append_replicate (cs : List Char) (n : Nat) :
    withoutSlashes (cs ++ List.replicate n '/') = withoutSlashes cs := by
  induction n with
  | zero => rw [List.replicate_zero, List.append_nil]
  | succ n ih => rw [List.replicate_succ', ← List.append_assoc, withoutSlashes_concat_slash, ih]

/-- Only slashes are taken off. -/
theorem exists_slashes (cs : List Char) : ∃ n, cs = withoutSlashes cs ++ List.replicate n '/' := by
  induction cs using List.reverseRecOn with
  | nil => exact ⟨0, rfl⟩
  | append_singleton cs c ih =>
    by_cases slash : c = '/'
    · obtain ⟨n, split⟩ := ih
      refine ⟨n + 1, ?_⟩
      rw [slash, withoutSlashes_concat_slash, List.replicate_succ', ← List.append_assoc, ← split]
    · exact ⟨0, by rw [withoutSlashes_concat slash, List.replicate_zero, List.append_nil]⟩

/-- What ends in something else than a slash stays whole. -/
theorem withoutSlashes_append {front : List Char} (ends : ∀ c ∈ front.getLast?, c ≠ '/') (cs : List Char) :
    withoutSlashes (front ++ cs) = front ++ withoutSlashes cs := by
  induction cs using List.reverseRecOn with
  | nil =>
    obtain rfl | ⟨init, last, rfl⟩ := List.eq_nil_or_concat' front
    · rfl
    · have other : last ≠ '/' := ends last (by simp)
      rw [List.append_nil, withoutSlashes_concat other]
      exact (List.append_nil _).symm
  | append_singleton cs c ih =>
    rw [← List.append_assoc]
    by_cases slash : c = '/'
    · rw [slash, withoutSlashes_concat_slash, withoutSlashes_concat_slash, ih]
    · rw [withoutSlashes_concat slash, withoutSlashes_concat slash, List.append_assoc]

namespace Url

/-! ## Paths as they are sent -/

/-- What is sent for a character. -/
def escapeChar (standsForItself : UInt8 → Bool) (c : Char) : List Char :=
  (String.utf8EncodeChar c).flatMap fun b =>
    if standsForItself b then [Char.ofNat b.toNat] else Text.Form.percent b

theorem escape_eq_flatMap (standsForItself : UInt8 → Bool) (cs : List Char) :
    escape standsForItself cs = cs.flatMap (escapeChar standsForItself) := by
  rw [escape, Text.utf8, String.toList_ofList, List.flatMap_assoc]
  rfl

theorem escape_append (standsForItself : UInt8 → Bool) (first second : List Char) :
    escape standsForItself (first ++ second) = escape standsForItself first ++ escape standsForItself second := by
  simp only [escape_eq_flatMap, List.flatMap_append]

theorem escape_singleton (standsForItself : UInt8 → Bool) (c : Char) :
    escape standsForItself [c] = escapeChar standsForItself c := by
  rw [escape_eq_flatMap, List.flatMap_singleton]

theorem escapeChar_ne_nil (standsForItself : UInt8 → Bool) (c : Char) : escapeChar standsForItself c ≠ [] := by
  obtain ⟨b, rest, bytes⟩ := List.exists_cons_of_length_pos (l := String.utf8EncodeChar c)
    (by rw [String.length_utf8EncodeChar]; exact c.utf8Size_pos)
  rw [escapeChar, bytes, List.flatMap_cons]
  refine List.append_ne_nil_of_left_ne_nil ?_ _
  split <;> exact List.cons_ne_nil _ _

/-- The byte of a slash occurs in no other character. -/
theorem eq_slash_of_mem {c : Char} (h : 0x2f ∈ String.utf8EncodeChar c) : c = '/' := by
  have slash : (0x2f : UInt8).toNat = 47 := rfl
  have value : c.val.toNat = 47 := by
    unfold String.utf8EncodeChar at h
    dsimp only at h
    (repeat' split at h) <;>
      simp only [List.mem_cons, List.not_mem_nil, or_false, ← UInt8.toNat_inj, UInt8.toNat_ofNat', slash] at h <;>
      omega
  exact Char.ext (UInt32.toNat_inj.mp value)

theorem escapeChar_slash : escapeChar isPathByte '/' = ['/'] := by decide

theorem escape_slash_cons (cs : List Char) : escape isPathByte ('/' :: cs) = '/' :: escape isPathByte cs := by
  rw [escape_eq_flatMap, List.flatMap_cons, escapeChar_slash, ← escape_eq_flatMap, List.singleton_append]

/-- Only a slash is sent as one. -/
theorem slash_notMem_escapeChar {c : Char} (h : c ≠ '/') : '/' ∉ escapeChar isPathByte c := by
  have byte : ∀ b : UInt8, '/' ∈ (if isPathByte b then [Char.ofNat b.toNat] else Text.Form.percent b) →
      b = 0x2f := Text.forall_byte (by decide +kernel)
  intro mem
  obtain ⟨b, inside, written⟩ := List.mem_flatMap.mp mem
  rw [byte b written] at inside
  exact h (eq_slash_of_mem inside)

/-- What is sent for a path has no place where the query could begin. -/
theorem mark_notMem_escape (cs : List Char) : '?' ∉ escape isPathByte cs := by
  have byte : ∀ b : UInt8, '?' ∉ (if isPathByte b then [Char.ofNat b.toNat] else Text.Form.percent b) :=
    Text.forall_byte (by decide +kernel)
  intro mem
  obtain ⟨b, -, written⟩ := List.mem_flatMap.mp mem
  exact byte b written

/-- Slashes at the end can be taken off before or after the path is brought into the form in which it is
sent. -/
theorem withoutSlashes_escape (cs : List Char) :
    withoutSlashes (escape isPathByte cs) = escape isPathByte (withoutSlashes cs) := by
  induction cs using List.reverseRecOn with
  | nil => rfl
  | append_singleton cs c ih =>
    rw [escape_append, escape_singleton]
    by_cases slash : c = '/'
    · rw [slash, escapeChar_slash, withoutSlashes_concat_slash, withoutSlashes_concat_slash, ih]
    · rw [withoutSlashes_concat slash, escape_append, escape_singleton]
      obtain none | ⟨init, last, ends⟩ := List.eq_nil_or_concat' (escapeChar isPathByte c)
      · exact absurd none (escapeChar_ne_nil isPathByte c)
      · have other : last ≠ '/' := by
          rintro rfl
          exact slash_notMem_escapeChar slash (by rw [ends]; exact List.mem_concat_self)
        rw [ends, ← List.append_assoc, withoutSlashes_concat other]

/-! ## Segments -/

/-- Without segments of one or two dots there is nothing to resolve. -/
theorem resolve_of_noDots {segments : List (List Char)} (kept : List (List Char))
    (noDots : ∀ segment ∈ segments, isDot segment = false ∧ isDoubleDot segment = false) :
    resolve kept segments = kept ++ segments := by
  induction segments generalizing kept with
  | nil => exact (List.append_nil kept).symm
  | cons segment rest ih =>
    obtain ⟨⟨dot, doubleDot⟩, others⟩ := List.forall_mem_cons.mp noDots
    simp only [resolve, dot, doubleDot, Bool.false_eq_true, ↓reduceIte]
    rw [ih _ others, List.append_assoc, List.singleton_append]

/-- Each piece with its separator before it, a text is put together again. -/
theorem flatMap_pieces (mark : Char) (cs : List Char) :
    (Text.pieces mark cs).flatMap (mark :: ·) = mark :: cs := by
  have whole (texts : List (List Char)) (nonempty : texts ≠ []) :
      texts.flatMap (mark :: ·) = mark :: [mark].intercalate texts := by
    induction texts with
    | nil => exact absurd rfl nonempty
    | cons first rest ih =>
      cases rest with
      | nil => simp [List.intercalate_singleton]
      | cons second rest =>
        rw [List.flatMap_cons, ih (List.cons_ne_nil _ _), List.intercalate_cons_cons]
        simp only [List.cons_append, List.append_assoc, List.nil_append]
  rw [whole _ (Text.pieces_ne_nil mark cs), Text.intercalate_pieces]

/-! ## Base addresses -/

/-- The character can stand in a path: it is visible and begins no other part of the address. -/
def isPathChar (c : Char) : Bool := 0x20 < c.toNat && c ≠ '\\' && c ≠ '?' && c ≠ '#'

/-- A path as it is written in an address: empty, or a slash and segments none of which is one or two
dots. -/
structure IsPath (path : List Char) : Prop where
  rooted : ∀ c ∈ path.head?, c = '/'
  chars : ∀ c ∈ path, isPathChar c = true
  noDots : ∀ segment ∈ Text.pieces '/' path, isDot segment = false ∧ isDoubleDot segment = false

/-- The path of the messages below a path. -/
theorem IsPath.messages {path : List Char} (h : IsPath path) :
    IsPath (withoutSlashes path ++ "/v1/messages".toList) := by
  have below : "/v1/messages".toList = '/' :: "v1/messages".toList := by decide
  obtain ⟨n, whole⟩ := exists_slashes path
  generalize withoutSlashes path = trimmed at *
  subst whole
  rw [below]
  refine ⟨?rooted, ?chars, ?noDots⟩
  case rooted =>
    cases trimmed with
    | nil => rintro c ⟨⟩; rfl
    | cons first rest => exact h.rooted
  case chars =>
    intro c mem
    obtain own | new := List.mem_append.mp mem
    · exact h.chars c (List.mem_append_left _ own)
    · have fits : ∀ c ∈ '/' :: "v1/messages".toList, isPathChar c = true :=
        List.all_eq_true.mp (by decide)
      exact fits c new
  case noDots =>
    intro segment mem
    rw [Text.pieces_append_cons] at mem
    obtain own | new := List.mem_append.mp mem
    · refine h.noDots segment ?_
      cases n with
      | zero => rwa [List.replicate_zero, List.append_nil]
      | succ n =>
        rw [List.replicate_succ, Text.pieces_append_cons]
        exact List.mem_append_left _ own
    · have fits : ∀ segment ∈ Text.pieces '/' "v1/messages".toList,
          isDot segment = false ∧ isDoubleDot segment = false := by decide
      exact fits segment new

/-- The segments of a path, each behind its slash, are the path in the form in which it is sent. -/
theorem IsPath.flatMap_segmentsOf {path : List Char} (h : IsPath path) :
    (segmentsOf path).flatMap ('/' :: ·) = escape isPathByte (if path = [] then ['/'] else path) := by
  cases path with
  | nil => decide
  | cons first rest =>
    obtain rfl := h.rooted first rfl
    have noBackslash : ('/' :: rest).map (fun c => if c = '\\' then '/' else c) = '/' :: rest := by
      refine List.map_congr_left (fun c mem => if_neg ?_) |>.trans (List.map_id' _)
      rintro rfl
      exact absurd (h.chars _ mem) (by decide)
    have noDots : ∀ segment ∈ Text.pieces '/' rest, isDot segment = false ∧ isDoubleDot segment = false := by
      intro segment mem
      refine h.noDots segment ?_
      rw [← List.nil_append ('/' :: rest), Text.pieces_append_cons]
      exact List.mem_append_right _ mem
    have segments : segmentsOf ('/' :: rest) = (Text.pieces '/' rest).map (escape isPathByte) := by
      unfold segmentsOf
      simp only [noBackslash, List.head?_cons, ↓reduceIte, List.drop_one, List.tail_cons]
      rw [resolve_of_noDots [] noDots, List.nil_append]
    rw [if_neg (List.cons_ne_nil _ _), segments, ← flatMap_pieces, escape_eq_flatMap, List.flatMap_map,
      List.flatMap_assoc]
    exact List.flatMap_congr fun segment _ => by rw [← escape_eq_flatMap, escape_slash_cons]

end Url

/-- A base address: the server, with the scheme in letters of either case, and a path. -/
structure BaseAddress where
  secure : Bool
  scheme : List Char
  authority : List Char
  path : List Char
  scheme_eq : String.ofList (scheme.map Char.toLower) = if secure then "https://" else "http://"
  authority_valid : Url.isAuthority authority = true
  authority_chars : ∀ c ∈ authority, Url.isPathChar c = true ∧ c ≠ '/'
  path_valid : Url.IsPath path

namespace BaseAddress

/-- The text before the path. -/
def server (address : BaseAddress) : List Char := address.scheme ++ address.authority

def text (address : BaseAddress) : String := String.ofList (address.server ++ address.path)

/-- The address with another path. -/
def withPath (address : BaseAddress) (path : List Char) : Url :=
  { secure := address.secure, authority := address.authority, segments := Url.segmentsOf path, query := none }

/-- The scheme is told by the text, and the rest begins with the authority. -/
theorem dropScheme?_server_append (address : BaseAddress) (cs : List Char) :
    Url.dropScheme? (if address.secure then "https://" else "http://") (address.server ++ cs) =
      some (address.authority ++ cs) ∧
    (address.secure = true → Url.dropScheme? "http://" (address.server ++ cs) = none) := by
  have size := congrArg String.length address.scheme_eq
  rw [String.length_ofList, List.length_map] at size
  rw [server, List.append_assoc]
  constructor
  · rw [Url.dropScheme?, ← size, List.take_left, List.drop_left]
    exact if_pos address.scheme_eq
  · intro secure
    have chars := congrArg String.toList address.scheme_eq
    rw [String.toList_ofList, secure, if_pos rfl] at chars
    rw [secure, if_pos rfl] at size
    have long : "http://".length ≤ address.scheme.length := by rw [size]; decide
    rw [Url.dropScheme?, List.take_append_of_le_length long, List.map_take, chars]
    exact if_neg (by decide)

/-- **An address is read** as its server and the path, and no query. -/
theorem ofText?_server_append (address : BaseAddress) {path : List Char} (h : Url.IsPath path) :
    Url.ofText? (String.ofList (address.server ++ path)) = some (address.withPath path) := by
  have noFragment : path.takeWhile (· ≠ '#') = path := by
    refine List.takeWhile_eq_self_iff.mpr fun c mem => decide_eq_true ?_
    rintro rfl
    exact absurd (h.chars _ mem) (by decide)
  have noQuery : path.takeWhile (· ≠ '?') = path := by
    refine List.takeWhile_eq_self_iff.mpr fun c mem => decide_eq_true ?_
    rintro rfl
    exact absurd (h.chars _ mem) (by decide)
  have authority : (address.authority ++ path).takeWhile (fun c => !Url.endsAuthority c) =
      address.authority := by
    have inside : ∀ c ∈ address.authority, (!Url.endsAuthority c) = true := by
      intro c mem
      obtain ⟨plain, noSlash⟩ := address.authority_chars c mem
      simp only [Url.isPathChar, Bool.and_eq_true, decide_eq_true_eq] at plain
      simp [Url.endsAuthority, noSlash, plain]
    rw [List.takeWhile_append_of_pos inside]
    cases path with
    | nil => exact List.append_nil _
    | cons first rest =>
      obtain rfl := h.rooted first rfl
      exact List.append_nil _
  obtain ⟨own, other⟩ := address.dropScheme?_server_append path
  simp only [Url.ofText?, String.toList_ofList]
  cases secure : address.secure with
  | false =>
    rw [secure, if_neg Bool.false_ne_true] at own
    simp only [own, authority, address.authority_valid, List.drop_left, noFragment, noQuery, guard,
      Option.bind_eq_bind, Option.bind_some, List.drop_length, ↓reduceIte, withPath, secure]
    rfl
  | true =>
    rw [secure, if_pos rfl] at own
    simp only [own, other secure, authority, address.authority_valid, List.drop_left, noFragment, noQuery,
      guard, Option.bind_eq_bind, Option.bind_some, List.drop_length, ↓reduceIte, withPath, secure]
    rfl

/-- A server does not end in a slash. -/
theorem server_getLast? (address : BaseAddress) : ∀ c ∈ address.server.getLast?, c ≠ '/' := by
  have nonempty : address.authority ≠ [] := by
    intro none
    have valid := address.authority_valid
    rw [none] at valid
    exact absurd valid (by decide)
  intro c last
  rw [server, List.getLast?_append_of_ne_nil _ nonempty] at last
  exact (address.authority_chars c (List.mem_of_getLast? last)).2

theorem path_withPath (address : BaseAddress) {path : List Char} (h : Url.IsPath path) :
    (address.withPath path).path = Url.escape Url.isPathByte (if path = [] then ['/'] else path) :=
  h.flatMap_segmentsOf

end BaseAddress

/-! ## Requests -/

namespace Url

/-- The path of a target. -/
def targetPath (target : String) : List Char := target.toList.takeWhile (· ≠ '?')

/-- The query of a target. -/
def targetQuery (target : String) : List Char := (target.toList.dropWhile (· ≠ '?')).drop 1

theorem target_parts {path : List Char} (noMark : '?' ∉ path) (query : List Char) :
    targetPath (String.ofList (path ++ '?' :: query)) = path ∧
      targetQuery (String.ofList (path ++ '?' :: query)) = query := by
  have before : ∀ c ∈ path, decide (c ≠ '?') = true := by
    intro c mem
    rw [decide_eq_true_iff]
    rintro rfl
    exact noMark mem
  rw [targetPath, targetQuery, String.toList_ofList, List.takeWhile_append_of_pos before,
    List.dropWhile_append_of_pos before]
  exact ⟨List.append_nil _, rfl⟩

end Url

namespace FeedClient

/-- The client asks for the messages of an address with this request, and the target tells the question. -/
structure Asks (client : FeedClient) (url : Url) (question : Query) (request : FeedRequest) : Prop where
  made : client.request question = .ok request
  /-- The request goes to the server of the address. -/
  server : ∃ sent, Url.ofText? client.messagesUrl = some sent ∧ sent.secure = url.secure ∧
    sent.authority = url.authority
  path : Url.targetPath request.target = withoutSlashes url.path ++ "/v1/messages".toList
  query : Text.Form.pairs? (Url.targetQuery request.target) =
    some [("startReceivedDate", question.since), ("deviceGuid", question.guid)]
  /-- This request is all that a fetch sends. -/
  seen : ∀ (server : FeedServer) {reply : FeedReply} {rest : List FeedReply}, server.network = .reachable →
    server.replies = reply :: rest → (client.feed question server).2.seen = server.seen ++ [request]

theorem seen_feed {client : FeedClient} {question : Query} {request : FeedRequest} {server : FeedServer}
    {reply : FeedReply} {rest : List FeedReply} (made : client.request question = .ok request)
    (reachable : server.network = .reachable) (replies : server.replies = reply :: rest) :
    (client.feed question server).2.seen = server.seen ++ [request] := by
  simp only [feed, exchange, made, reachable, replies]

/-- A question can be told from the target. -/
theorem Asks.question_eq {client other : FeedClient} {url url' : Url} {question question' : Query}
    {request request' : FeedRequest} (asks : Asks client url question request)
    (asks' : Asks other url' question' request') (same : request.target = request'.target) :
    question = question' := by
  have read := asks.query
  rw [same, asks'.query] at read
  simp only [Option.some.injEq, List.cons.injEq, Prod.mk.injEq, true_and, and_true] at read
  obtain ⟨guid, since⟩ := question
  obtain ⟨guid', since'⟩ := question'
  rw [Query.mk.injEq]
  exact ⟨read.2.symm, read.1.symm⟩

section

variable (address : BaseAddress) (token : String)

/-- The client of an address: its base has no slashes at the end. -/
def ofBase : FeedClient := { base := String.ofList (address.server ++ withoutSlashes address.path), token }

/-- Slashes behind an address do not matter. -/
theorem ofAddress_text_append (slashes : Nat) :
    ofAddress (address.text ++ String.ofList (List.replicate slashes '/')) token = ofBase address token := by
  rw [ofAddress, trimSlashes_eq, String.toList_append, BaseAddress.text, String.toList_ofList,
    String.toList_ofList, withoutSlashes_append_replicate, withoutSlashes_append address.server_getLast?,
    ofBase]

/-- The address of the messages has the path of the messages below that of the base address. -/
theorem ofText?_messagesUrl : ∃ sent, Url.ofText? (ofBase address token).messagesUrl = some sent ∧
    sent.secure = address.secure ∧ sent.authority = address.authority ∧ sent.query = none ∧
    sent.path = withoutSlashes (address.withPath address.path).path ++ "/v1/messages".toList ∧
    '?' ∉ sent.path := by
  have valid := address.path_valid.messages
  have url : (ofBase address token).messagesUrl =
      String.ofList (address.server ++ (withoutSlashes address.path ++ "/v1/messages".toList)) := by
    rw [messagesUrl, ofBase, ← String.toList_inj]
    simp only [String.toList_append, String.toList_ofList, List.append_assoc]
  have same : withoutSlashes (if address.path = [] then ['/'] else address.path) =
      withoutSlashes address.path := by
    split
    · next none => rw [none]; rfl
    · rfl
  have own : Url.escape Url.isPathByte "/v1/messages".toList = "/v1/messages".toList := by decide
  have path := address.path_withPath valid
  rw [if_neg (List.append_ne_nil_of_right_ne_nil _ (by decide))] at path
  refine ⟨_, url ▸ address.ofText?_server_append valid, rfl, rfl, rfl, ?_, ?_⟩
  · rw [path, address.path_withPath address.path_valid, Url.withoutSlashes_escape, same, Url.escape_append,
      own]
  · rw [path]
    exact Url.mark_notMem_escape _

theorem asks_ofBase {token : String} (sendable : token.toList.any isRefused = false) (question : Query) :
    ∃ request, Asks (ofBase address token) (address.withPath address.path) question request := by
  obtain ⟨sent, parsed, secure, authority, noQuery, path, noMark⟩ := ofText?_messagesUrl address token
  have target : sent.target (pairs question) = sent.path ++ '?' :: Text.Form.query (pairs question) := by
    simp only [Url.target, noQuery, List.append_assoc, List.cons_append, List.nil_append]
  obtain ⟨pathOf, queryOf⟩ := Url.target_parts noMark (Text.Form.query (pairs question))
  have made : (ofBase address token).request question =
      .ok { target := String.ofList (sent.target (pairs question)), apiKey := token } := by
    have own : (ofBase address token).token = token := rfl
    simp only [request, parsed, own, sendable, Bool.false_eq_true, ↓reduceIte]
  refine ⟨_, made, ⟨sent, parsed, secure, authority⟩, ?path, ?query, ?seen⟩
  case path => rw [target, pathOf, path]
  case query =>
    rw [target, queryOf]
    exact Text.Form.pairs?_query (List.cons_ne_nil _ _)
  case seen =>
    intro server reply rest reachable replies
    exact seen_feed made reachable replies

end

/-- **The target of a request tells its question**, and the path below the base address. Slashes behind
the address do not matter, and no two questions have one target. -/
theorem target_tells_question (address : BaseAddress) {token : String}
    (sendable : token.toList.any isRefused = false) :
    ∃ url, Url.ofText? address.text = some url ∧
      (∀ (slashes : Nat) (question : Query), ∃ request,
        Asks (ofAddress (address.text ++ String.ofList (List.replicate slashes '/')) token) url question
          request) ∧
      ∀ (slashes slashes' : Nat) (question question' : Query) (request request' : FeedRequest),
        (ofAddress (address.text ++ String.ofList (List.replicate slashes '/')) token).request question =
          .ok request →
        (ofAddress (address.text ++ String.ofList (List.replicate slashes' '/')) token).request question' =
          .ok request' →
        request.target = request'.target → question = question' := by
  refine ⟨_, address.ofText?_server_append address.path_valid, ?asks, ?told⟩
  case asks =>
    intro slashes question
    rw [ofAddress_text_append]
    exact asks_ofBase address sendable question
  case told =>
    intro slashes slashes' question question' request request' made made' same
    rw [ofAddress_text_append] at made made'
    obtain ⟨own, asks⟩ := asks_ofBase address sendable question
    obtain ⟨own', asks'⟩ := asks_ofBase address sendable question'
    cases asks.made.symm.trans made
    cases asks'.made.symm.trans made'
    exact asks.question_eq asks' same

/-- An address whose scheme has letters of either case, with a port, a slash within its path that stands
for no segment, and a character that is sent in another form. -/
def sampleAddress : BaseAddress where
  secure := true
  scheme := "HTTPS://".toList
  authority := "example.test:8443".toList
  path := "/track//é/".toList
  scheme_eq := by decide
  authority_valid := by decide
  authority_chars := by
    have fits : ("example.test:8443".toList.all fun c => Url.isPathChar c && c ≠ '/') = true := by decide
    simpa only [List.all_eq_true, Bool.and_eq_true, decide_eq_true_eq] using fits
  path_valid := ⟨by rintro c ⟨⟩; rfl, List.all_eq_true.mp (by decide), by decide⟩

/-- Separators of a query within a device and a date stay within them. -/
theorem target_tells_question_reserved :
    "token".toList.any isRefused = false ∧
    ∃ request, (ofAddress (sampleAddress.text ++ "///") "token").request
        { guid := "a&deviceGuid=b#+% é", since := "2022-10-01 00:00=" } = .ok request ∧
      Url.targetPath request.target = "/track//%C3%A9/v1/messages".toList ∧
      Text.Form.pairs? (Url.targetQuery request.target) =
        some [("startReceivedDate", "2022-10-01 00:00="), ("deviceGuid", "a&deviceGuid=b#+% é")] := by
  have sendable : "token".toList.any isRefused = false := by decide
  obtain ⟨url, parsed, asks, -⟩ := target_tells_question sampleAddress sendable
  obtain ⟨request, asks⟩ := asks 3 { guid := "a&deviceGuid=b#+% é", since := "2022-10-01 00:00=" }
  obtain rfl := Option.some.inj ((sampleAddress.ofText?_server_append sampleAddress.path_valid).symm.trans parsed)
  have path : (sampleAddress.withPath sampleAddress.path).path = "/track//%C3%A9/".toList := by decide
  exact ⟨sendable, request, asks.made, by rw [asks.path, path]; decide, asks.query⟩

end FeedClient

end SatelliteTrack
