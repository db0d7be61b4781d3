import Storyboard.Operator.Builtin
import Storyboard.Proofs.Node.Decoding
import Storyboard.Proofs.Web.Drafts

/-!
# What a request carries

A request that is drafted from a payload carries the headers that the payload gives, each with
its value as a text, and its body as text or as compact JSON.  Where there is a body whose kind
no given header names, in upper or lower case, the kind is added as one more header, so that a
look-up never finds the added one in the place of a given one.
-/

namespace Storyboard
namespace Web

/-- The headers that a node gives: the entries of a mapping whose value is not `null`, in order, with
the text of the value for readers. -/
def givenHeaders (node : Node) : Headers :=
  ((Path.entriesOf node).filter fun entry => !entry.2.isNull).map
    fun entry => (entry.1, entry.2.display)

/-- The kind of content that a node is as a body, if it is one. -/
def contentKind? : Node → Option String
  | .string _ => some "text/plain"
  | .sequence _ => some "application/json"
  | .mapping _ => some "application/json"
  | _ => none

/-- The bytes of the body of a request, if it has one. -/
def Request.bytes? (request : Request) : Option (List UInt8) :=
  request.body.map fun text => bytesOf text.toList

/-! ## The parts of a draft -/

/-- A sound draft is made of sound parts. -/
theorem Rules.exists_of_reading_eq_ok
    {rules : Rules}
    {value : String → Node}
    {request : Request}
    (sound : rules.reading value = .ok request) :
    ∃ url method headers body,
      rules.headers (value "headers") = .ok headers ∧ content (value "body") = .ok body ∧
        request = .make url method headers body := by
  obtain ⟨url, -, sound⟩ := Json.bind_eq_ok_iff.mp sound
  obtain ⟨method, -, sound⟩ := Json.bind_eq_ok_iff.mp sound
  obtain ⟨headers, soundHeaders, sound⟩ := Json.bind_eq_ok_iff.mp sound
  obtain ⟨body, soundBody, sound⟩ := Json.bind_eq_ok_iff.mp sound
  exact ⟨url, method, headers, body, soundHeaders, soundBody, (Except.ok.inj sound).symm⟩

/-- Sound headers are those that are given. -/
theorem Rules.eq_givenHeaders
    {rules : Rules}
    {node : Node}
    {headers : Headers}
    (sound : rules.headers node = .ok headers) :
    headers = givenHeaders node := by
  unfold Rules.headers at sound
  unfold givenHeaders Path.entriesOf
  generalize node.asMapping?.getD [] = entries at sound ⊢
  induction entries generalizing headers with
  | nil => exact (Except.ok.inj sound).symm
  | cons entry rest inductionHypothesis =>
      obtain ⟨name, value⟩ := entry
      rw [headerList] at sound
      cases absent : value.isNull with
      | true =>
          rw [absent, if_pos rfl] at sound
          rw [List.filter_cons_of_neg (by simp [absent])]
          exact inductionHypothesis sound
      | false =>
          rw [absent, if_neg Bool.false_ne_true] at sound
          rw [List.filter_cons_of_pos (by simp [absent]), List.map_cons]
          split at sound
          · cases others : rules.headerList rest with
            | error error => simp [others] at sound
            | ok later =>
                rw [others] at sound
                obtain rfl := Except.ok.inj sound
                rw [inductionHypothesis others]
          · cases sound

/-- A container that can be written is written as compact JSON. -/
theorem eq_render_of_serialized
    {node : Node}
    {text : String}
    (sound : serialized node = .ok text) :
    text = node.render := by
  unfold serialized at sound
  split at sound
  · next tree made =>
      obtain ⟨digits, rfl⟩ := Node.toTree_eq_ok_iff.mp made
      obtain rfl := Except.ok.inj sound
      exact Node.render_tree digits
  · cases sound

/-- A sound body is absent, a text, or a container as compact JSON. -/
theorem content_cases
    {node : Node}
    {body : Option (String × String)}
    (sound : content node = .ok body) :
    (node = .null ∧ body = none) ∨
      (∃ text, node = .string text ∧ body = some (text, "text/plain")) ∨
      (node.isScalar = false ∧ body = some (node.render, "application/json")) := by
  have ofSerialized : ∀ container : Node,
      (serialized container).map (fun text => some (text, "application/json")) = .ok body →
        body = some (container.render, "application/json") := by
    intro container sound
    cases written : serialized container with
    | error error =>
        rw [written] at sound
        cases sound
    | ok text =>
        rw [written] at sound
        rw [← eq_render_of_serialized written]
        exact (Except.ok.inj sound).symm
  cases node with
  | null => exact .inl ⟨rfl, (Except.ok.inj sound).symm⟩
  | string text => exact .inr (.inl ⟨text, rfl, (Except.ok.inj sound).symm⟩)
  | sequence items => exact .inr (.inr ⟨rfl, ofSerialized _ sound⟩)
  | mapping entries => exact .inr (.inr ⟨rfl, ofSerialized _ sound⟩)
  | bool | number => cases sound

/-- A sound body has a kind, and one that is absent has none. -/
theorem map_snd_of_content
    {node : Node}
    {body : Option (String × String)}
    (sound : content node = .ok body) :
    body.map Prod.snd = contentKind? node := by
  rcases content_cases sound with ⟨rfl, rfl⟩ | ⟨text, rfl, rfl⟩ | ⟨container, rfl⟩
  · rfl
  · rfl
  · cases node with
    | sequence | mapping => rfl
    | _ => cases container

/-! ## The header that names the kind of content -/

theorem sameName_iff
    {name other : String} :
    sameName name other = true ↔ name.toList.map Char.toLower = other.toList.map Char.toLower :=
  beq_iff_eq

/-- A look-up does not tell names apart that agree up to case. -/
theorem Headers.find?_congr
    (headers : Headers)
    {name other : String}
    (same : sameName name other = true) :
    headers.find? name = headers.find? other := by
  have each : ∀ header : String × String, sameName header.1 name = sameName header.1 other := by
    intro header
    rw [Bool.eq_iff_iff, sameName_iff, sameName_iff, sameName_iff.mp same]
  unfold Headers.find?
  rw [funext each]

/-- Nothing is found exactly if no header has the name. -/
theorem Headers.find?_eq_none_iff
    {headers : Headers}
    {name : String} :
    headers.find? name = none ↔ ∀ header ∈ headers, sameName header.1 name = false := by
  simp [Headers.find?]

/-- The kind of content comes behind the headers, if they do not name it. -/
theorem withContentType_eq_append
    (headers : Headers)
    (kind : String) :
    ∃ added : Headers, withContentType headers kind = headers ++ added ∧
      (∀ header ∈ added, header = (contentTypeName, kind)) ∧ added.length ≤ 1 ∧
      (added ≠ [] ↔ headers.find? contentTypeName = none) := by
  unfold withContentType
  cases headers.find? contentTypeName with
  | some value => exact ⟨[], (List.append_nil headers).symm, by simp, Nat.zero_le 1, by simp⟩
  | none => exact ⟨[(contentTypeName, kind)], rfl, by simp, Nat.le_refl 1, by simp⟩

/-- A look-up of the kind of content finds what is given, or else what was added. -/
theorem find?_withContentType
    (headers : Headers)
    (kind : String)
    {name : String}
    (isKind : sameName name contentTypeName = true) :
    Headers.find? (withContentType headers kind) name = (headers.find? name).or (some kind) := by
  rw [Headers.find?_congr _ isKind, Headers.find?_congr headers isKind]
  unfold withContentType
  cases found : headers.find? contentTypeName with
  | some value => exact found
  | none =>
      have absent : List.find? (fun header => sameName header.1 contentTypeName) headers = none := by
        simpa [Headers.find?] using found
      have itself : sameName contentTypeName contentTypeName = true := sameName_iff.mpr rfl
      simp [Headers.find?, List.find?_append, absent, itself]

end Web

namespace Node

/-- Compact JSON is decoded as the node that was written, with whole numbers plain. -/
theorem decodeBody_render
    {node : Node}
    (whole : node.WholeNumbers)
    (distinct : node.DistinctKeys)
    (shallow : node.depth ≤ Json.depthLimit) :
    Web.decodeBody (Web.bytesOf node.render.toList) = node.mapNumbers plainNumber := by
  have parsed : Json.Tree.parse node.render = .ok node.tree := by
    rw [Json.Tree.parse, render, String.toList_ofList, compact_eq_laid 0]
    exact whole_laid makes_tree .compact whole distinct shallow
  rw [decodeBody_of_parse parsed, ofTree_tree]

end Node

namespace Web

/-- What a request carries of the headers and the body that a payload comes to. -/
structure Request.Carries (request : Request) (headers body : Node) : Prop where
  /-- The headers are the given ones, and behind them at most one that names the kind of content.
  It is there exactly if there is a body and no given header has its name in any case. -/
  listed : ∃ added : Headers, request.headers = givenHeaders headers ++ added ∧
    added.length ≤ 1 ∧
    (∀ header ∈ added, header.1 = "Content-Type" ∧ contentKind? body = some header.2) ∧
    (added ≠ [] ↔ request.bytes?.isSome = true ∧
      ∀ header ∈ givenHeaders headers, sameName header.1 "Content-Type" = false)
  /-- A look-up of the kind of content finds what is given, or else the kind of the body. -/
  found : ∀ name, sameName name "Content-Type" = true →
    request.headers.find? name = ((givenHeaders headers).find? name).or (contentKind? body)
  /-- There is no body exactly if `null` is given. -/
  absent : request.bytes? = none ↔ body = .null
  /-- A text is sent as its bytes. -/
  text : ∀ text, body = .string text → request.bytes? = some (bytesOf text.toList)
  /-- A container is sent as compact JSON. -/
  container : body.isScalar = false → request.bytes? = some (bytesOf body.render.toList)
  /-- Nothing else is sent. -/
  sendable : body = .null ∨ (∃ text, body = .string text) ∨ body.isScalar = false
  /-- Compact JSON is decoded as an equal container, if that is one of whole numbers and not too
  deep. -/
  decoded : body.isScalar = false → body.DistinctKeys → body.depth ≤ 127 →
    (∀ part ∈ body.parts, ∀ value, part = .number value →
      ∃ whole : Int, whole.natAbs ≤ 2 ^ 53 ∧ (value == Decimal.ofInteger whole) = true) →
    ∃ bytes, request.bytes? = some bytes ∧ Node.same body (decodeBody bytes) = true ∧
      (decodeBody bytes).keyOrders = body.keyOrders

/-- A request that is made of sound headers and a sound body carries them. -/
theorem Request.carries_make
    (url method : String)
    {headers body : Node}
    {sent : Option (String × String)}
    (sound : content body = .ok sent) :
    (Request.make url method (givenHeaders headers) sent).Carries headers body := by
  have kind := map_snd_of_content sound
  have bytes : (Request.make url method (givenHeaders headers) sent).bytes? =
      sent.map fun taken => bytesOf taken.1.toList := by
    cases sent <;> rfl
  have cases := content_cases sound
  have written : body.isScalar = false → sent.map (fun taken => bytesOf taken.1.toList) =
      some (bytesOf body.render.toList) := by
    intro container
    rcases cases with ⟨rfl, rfl⟩ | ⟨text, rfl, rfl⟩ | ⟨-, rfl⟩
    · cases container
    · cases container
    · rfl
  refine ⟨?_, ?_, ?_, ?_, ?_, ?_, ?_⟩
  · rw [bytes, ← kind]
    cases sent with
    | none => exact ⟨[], (List.append_nil _).symm, Nat.zero_le 1, by simp, by simp⟩
    | some taken =>
        obtain ⟨added, appended, isKind, atMost, exactly⟩ :=
          withContentType_eq_append (givenHeaders headers) taken.2
        refine ⟨added, appended, atMost, fun header member => ?_, ?_⟩
        · rw [isKind header member]
          exact ⟨rfl, rfl⟩
        · rw [exactly, Headers.find?_eq_none_iff]
          exact (and_iff_right rfl).symm
  · intro name isKind
    rw [← kind]
    cases sent with
    | none => exact (Option.or_none).symm
    | some taken => exact find?_withContentType (givenHeaders headers) taken.2 isKind
  · rw [bytes]
    rcases cases with ⟨rfl, rfl⟩ | ⟨text, rfl, rfl⟩ | ⟨container, rfl⟩
    · exact iff_of_true rfl rfl
    · exact iff_of_false (by simp) (by simp)
    · refine iff_of_false (by simp) ?_
      rintro rfl
      cases container
  · rintro text rfl
    obtain rfl := Except.ok.inj sound
    rfl
  · exact fun container => bytes.trans (written container)
  · rcases cases with ⟨same, -⟩ | ⟨text, same, -⟩ | ⟨container, -⟩
    · exact .inl same
    · exact .inr (.inl ⟨text, same⟩)
    · exact .inr (.inr container)
  · intro container distinct shallow integers
    have whole := Node.wholeNumbers_iff.mpr integers
    refine ⟨bytesOf body.render.toList, bytes.trans (written container), ?_⟩
    rw [Node.decodeBody_render whole distinct shallow]
    exact ⟨Node.same_mapNumbers_plainNumber whole distinct, Node.keyOrders_mapNumbers body⟩

end Web

namespace Session

/-- Whatever counts as an address, a method or a header: a request that is drafted from a payload
carries the headers and the body that the payload comes to. -/
theorem carries_of_draft
    (session : Session)
    (frame : Frame)
    (payload : Node)
    (request : Web.Request)
    (drafted : (frame.rules.draft (frame.evaluateField payload) session).1 = .ok request) :
    request.Carries (session.field frame payload "headers")
      (session.field frame payload "body") := by
  rw [((Recalls.refl session).draft frame payload).1] at drafted
  obtain ⟨url, method, headers, body, soundHeaders, soundBody, rfl⟩ :=
    Web.Rules.exists_of_reading_eq_ok drafted
  rw [Web.Rules.eq_givenHeaders soundHeaders]
  exact Web.Request.carries_make url method soundBody

/-- A list is sent with a number among its headers and its kind given in other letters; a third
header is `null`.  The list comes back where the body is decoded. -/
theorem carries_of_draft_of_list :
    let rules : Web.Rules :=
      ⟨fun text => .ok (.web text), fun _ => true, fun _ => true, fun _ => true⟩
    let frame : Frame := ⟨{}, ⟨Operator.builtin, "$index"⟩, rules, none, 1, fun _ _ => none⟩
    let headers : Node := .mapping [("content-TYPE", .string "text/csv"), ("X-Skip", .null),
      ("X-Count", .number (Decimal.ofInteger 3))]
    let body : Node := .sequence [.number (Decimal.ofInteger 1), .null]
    let payload : Node := .mapping [("url", .string "https://a.example/"), ("headers", headers),
      ("body", body)]
    let request : Web.Request := ⟨"https://a.example/", "GET",
      [("content-TYPE", "text/csv"), ("X-Count", "3")], some "[1,null]"⟩
    (frame.rules.draft (frame.evaluateField payload) {}).1 = .ok request ∧
      request.Carries (Session.field {} frame payload "headers") body ∧
      ∃ bytes, request.bytes? = some bytes ∧ Node.same body (Web.decodeBody bytes) = true := by
  intro rules frame headers body payload request
  have observed : (frame.rules.draft (frame.evaluateField payload) {}).1.toOption = some request := by
    decide +kernel
  have drafted : (frame.rules.draft (frame.evaluateField payload) {}).1 = .ok request := by
    cases outcome : (frame.rules.draft (frame.evaluateField payload) {}).1 with
    | error error => simp [outcome, Except.toOption] at observed
    | ok other => simpa [outcome, Except.toOption] using observed
  have evaluated : Session.field {} frame payload "body" = body := rfl
  have carries := carries_of_draft {} frame payload request drafted
  rw [evaluated] at carries
  have distinct : body.DistinctKeys := by decide +kernel
  have shallow : body.depth ≤ 127 := by decide +kernel
  have integers := Node.wholeNumbers_iff.mp (show body.WholeNumbers by decide +kernel)
  obtain ⟨bytes, sent, same, -⟩ := carries.decoded rfl distinct shallow integers
  exact ⟨drafted, carries, bytes, sent, same⟩

end Session
end Storyboard
