import ProjectSurvey.Proofs.ServiceRequests

/-! What becomes of a request to run a tool before the tool is run: it is refused, or its body carries the
arguments of a call. Some requests come to neither. -/

namespace ProjectSurvey

/-- Whether bytes are JSON text for a value. -/
def Json.IsReadFrom (json : Json) (bytes : Bytes) : Prop :=
  ∃ text, decodeBytes? bytes = some text ∧ parseDecoded text = .ok json

namespace ServiceRequest

/-- Whether the head of a request tells a length, which is none if it is left out or empty. -/
def TellsLength (request : ServiceRequest) (length : Nat) : Prop :=
  (request.contentLength = none ∨ request.contentLength = some []) ∧ length = 0 ∨
    ∃ text, request.contentLength = some text ∧ text ≠ [] ∧ text.IsWrittenFor length

/-- Whether bytes are those at the start of the body that count: as many as the head tells, or all. -/
def Holds (request : ServiceRequest) (bytes : Bytes) : Prop :=
  ∃ length, request.TellsLength length ∧ bytes <+: request.body ∧ bytes.length = min length request.body.length

/-- The requests that are answered without a call, and the answers. -/
inductive IsRefused (request : ServiceRequest) : Response → Prop
  | elsewhere : ¬ toolsPath <+: request.path → IsRefused request (.failure 404 ("Not found: " ++ request.path))
  | noLength : toolsPath <+: request.path → (∀ length, ¬ request.TellsLength length) →
      IsRefused request (.failure 400 "Invalid Content-Length")
  | notJson {bytes : Bytes} : toolsPath <+: request.path → request.Holds bytes → bytes ≠ [] →
      (∀ json : Json, ¬ json.IsReadFrom bytes) → IsRefused request (.failure 400 "Request body must be JSON")
  | notObject {bytes : Bytes} {json : Json} : toolsPath <+: request.path → request.Holds bytes → bytes ≠ [] →
      json.IsReadFrom bytes → (∀ fields, json ≠ .object fields) →
      IsRefused request (.failure 400 "Request body must be a JSON object")

/-- The requests that call a tool by name, and the fields of its arguments. -/
inductive Carries (request : ServiceRequest) : Text → List (Text × Json) → Prop
  | nothing {name : Text} : request.path = toolsPath ++ name → request.Holds [] → Carries request name []
  | object {name : Text} {bytes : Bytes} {fields : List (Text × Json)} : request.path = toolsPath ++ name →
      request.Holds bytes → bytes ≠ [] → (Json.object fields).IsReadFrom bytes → Carries request name fields

/-- The requests that end in a fault: the length is greater than any number of bytes that can be asked for, or
the body is given up for a number of too many digits or for what is nested too deep. -/
inductive Stumbles (request : ServiceRequest) : Prop
  | length {length : Nat} : toolsPath <+: request.path → request.TellsLength length → greatestLength < length →
      Stumbles request
  | body {bytes : Bytes} {text : Text} {fault : Json.Fault} : toolsPath <+: request.path →
      request.Holds bytes → bytes ≠ [] → Json.decodeBytes? bytes = some text →
      Json.parseDecoded text = .error fault → (∀ malformed, fault ≠ .malformed malformed) → Stumbles request

variable {request : ServiceRequest}

theorem bodyLength?_eq_some {length : Nat} :
    bodyLength? request.contentLength = some length ↔ request.TellsLength length := by
  have zero : some 0 = some length ↔ length = 0 := by rw [Option.some.injEq, eq_comm]
  rcases told : request.contentLength with _ | _ | ⟨c, text⟩
  · simp [bodyLength?, TellsLength, told, show given? none = none from rfl, zero]
  · simp [bodyLength?, TellsLength, told, show given? (some []) = none from rfl, zero]
  · have whole : bodyLength? (some (c :: text)) = some length ↔ readWhole 10 (c :: text) = .ok (length : Int) := by
      simp only [bodyLength?, show given? (some (c :: text)) = some (c :: text) from rfl]
      cases readWhole 10 (c :: text) with
      | error fault => simp
      | ok value =>
        show (if value < 0 then none else some value.toNat) = some length ↔ _
        rw [Except.ok.injEq, Option.ite_none_left_eq_some, Option.some.injEq]
        omega
    rw [whole, readWhole_eq_ok]
    simp [TellsLength, told]

theorem holds_iff {bytes : Bytes} : request.Holds bytes ↔
    ∃ length, request.TellsLength length ∧ bytes = request.body.take length := by
  refine exists_congr fun length => and_congr_right fun _ => ?_
  constructor
  · rintro ⟨start, size⟩
    rw [List.prefix_iff_eq_take.mp start, size, ← List.take_eq_take_min]
  · rintro rfl
    exact ⟨List.take_prefix _ _, List.length_take⟩

theorem isRefused_or_carries (request : ServiceRequest) :
    (∃ response, request.IsRefused response) ∨ ∃ name fields, request.Carries name fields := by
  by_cases below : toolsPath <+: request.path
  · by_cases told : ∃ length, request.TellsLength length
    · obtain ⟨length, told⟩ := told
      obtain ⟨name, path⟩ := below
      have holds : request.Holds (request.body.take length) := holds_iff.mpr ⟨length, told, rfl⟩
      by_cases empty : request.body.take length = []
      · rw [empty] at holds
        exact .inr ⟨name, [], .nothing path.symm holds⟩
      by_cases read : ∃ json : Json, json.IsReadFrom (request.body.take length)
      · obtain ⟨json, read⟩ := read
        by_cases object : ∃ fields, json = .object fields
        · obtain ⟨fields, rfl⟩ := object
          exact .inr ⟨name, fields, .object path.symm holds empty read⟩
        · exact .inl ⟨_, .notObject ⟨name, path⟩ holds empty read (not_exists.mp object)⟩
      · exact .inl ⟨_, .notJson ⟨name, path⟩ holds empty (not_exists.mp read)⟩
    · exact .inl ⟨_, .noLength below (not_exists.mp told)⟩
  · exact .inl ⟨_, .elsewhere below⟩

end ServiceRequest

namespace Dispatch

variable {request : ServiceRequest} {name : Text}

theorem ofRequest_of_length {length : Nat} (path : request.path = toolsPath ++ name)
    (told : request.TellsLength length) (possible : length ≤ greatestLength) :
    ofRequest request = ofBody name (request.body.take length) := by
  have below : toolsPath.isPrefixOf request.path = true :=
    List.isPrefixOf_iff_prefix.mpr ⟨name, path.symm⟩
  simp only [ofRequest, below, if_true, ServiceRequest.bodyLength?_eq_some.mpr told]
  rw [if_neg (Nat.not_lt.mpr possible), path, List.drop_left]

theorem ofRequest_of_great {length : Nat} (below : toolsPath <+: request.path) (told : request.TellsLength length)
    (great : greatestLength < length) : ofRequest request = .fault .lengthTooGreat := by
  rw [ofRequest, if_pos (List.isPrefixOf_iff_prefix.mpr below), ServiceRequest.bodyLength?_eq_some.mpr told]
  exact if_pos great

/-- Without a stumble the bytes that count are what the call is read from. -/
theorem ofRequest_of_holds {bytes : Bytes} (smooth : ¬ request.Stumbles) (path : request.path = toolsPath ++ name)
    (holds : request.Holds bytes) : ofRequest request = ofBody name bytes := by
  obtain ⟨length, told, rfl⟩ := ServiceRequest.holds_iff.mp holds
  refine ofRequest_of_length path told (Nat.le_of_not_lt fun great => ?_)
  exact smooth (.length ⟨name, path.symm⟩ told great)

theorem ofBody_of_text {bytes : Bytes} {text : Text} (some : bytes ≠ [])
    (decoded : Json.decodeBytes? bytes = .some text) : ofBody name bytes =
      match Json.parseDecoded text with
      | .ok (.object fields) => .call name fields
      | .ok _ => .answer (.failure 400 "Request body must be a JSON object")
      | .error (.malformed _) => .answer (.failure 400 "Request body must be JSON")
      | .error problem => .fault (.body problem) := by
  have filled : ¬ bytes.isEmpty = true := mt List.isEmpty_iff.mp some
  rewrite [ofBody, if_neg filled, decoded]
  rfl

theorem ofBody_of_object {bytes : Bytes} {fields : List (Text × Json)} (some : bytes ≠ [])
    (read : (Json.object fields).IsReadFrom bytes) : ofBody name bytes = .call name fields := by
  obtain ⟨text, decoded, parsed⟩ := read
  rw [ofBody_of_text some decoded, parsed]

theorem ofBody_of_other {bytes : Bytes} {json : Json} (some : bytes ≠ []) (read : json.IsReadFrom bytes)
    (other : ∀ fields, json ≠ .object fields) :
    ofBody name bytes = .answer (.failure 400 "Request body must be a JSON object") := by
  obtain ⟨text, decoded, parsed⟩ := read
  rw [ofBody_of_text some decoded, parsed]
  cases json with
  | object fields => exact absurd rfl (other fields)
  | _ => rfl

/-- Bytes that are no JSON text are refused or given up. -/
theorem ofBody_of_unread {bytes : Bytes} (some : bytes ≠ []) (unread : ∀ json : Json, ¬ json.IsReadFrom bytes)
    (taken : ∀ text fault, Json.decodeBytes? bytes = .some text → Json.parseDecoded text = .error fault →
      ∃ malformed, fault = .malformed malformed) :
    ofBody name bytes = .answer (.failure 400 "Request body must be JSON") := by
  cases decoded : Json.decodeBytes? bytes with
  | none =>
    have filled : ¬ bytes.isEmpty = true := mt List.isEmpty_iff.mp some
    rw [ofBody, if_neg filled, decoded]
  | some text =>
    rw [ofBody_of_text some decoded]
    cases parsed : Json.parseDecoded text with
    | ok json => exact absurd ⟨text, decoded, parsed⟩ (unread json)
    | error fault =>
      obtain ⟨malformed, rfl⟩ := taken text fault decoded parsed
      rfl

theorem ofRequest_of_isRefused {response : Response} (smooth : ¬ request.Stumbles)
    (refused : request.IsRefused response) : ofRequest request = .answer response := by
  cases refused with
  | elsewhere outside => rw [ofRequest, if_neg (mt List.isPrefixOf_iff_prefix.mp outside), Response.notFound]
  | noLength below none =>
    have untold : bodyLength? request.contentLength = .none := by
      rw [Option.eq_none_iff_forall_ne_some]
      exact fun length told => none length (ServiceRequest.bodyLength?_eq_some.mp told)
    rw [ofRequest, if_pos (List.isPrefixOf_iff_prefix.mpr below), untold]
  | notJson below holds some unread =>
    obtain ⟨name, path⟩ := id below
    rw [ofRequest_of_holds smooth path.symm holds]
    refine ofBody_of_unread some unread fun text fault decoded parsed => ?_
    by_contra other
    exact smooth (.body below holds some decoded parsed (not_exists.mp other))
  | notObject below holds some read other =>
    obtain ⟨name, path⟩ := below
    rw [ofRequest_of_holds smooth path.symm holds, ofBody_of_other some read other]

theorem ofRequest_of_carries {fields : List (Text × Json)} (smooth : ¬ request.Stumbles)
    (carries : request.Carries name fields) : ofRequest request = .call name fields := by
  cases carries with
  | nothing path holds => exact ofRequest_of_holds smooth path holds
  | object path holds some read => rw [ofRequest_of_holds smooth path holds, ofBody_of_object some read]

theorem ofRequest_of_stumbles (stumbles : request.Stumbles) :
    ∃ fault, ofRequest request = .fault fault ∧ ∀ cause, fault ≠ .call cause := by
  cases stumbles with
  | length below told great =>
    exact ⟨.lengthTooGreat, ofRequest_of_great below told great, fun _ impossible => by cases impossible⟩
  | @body bytes text fault below holds some decoded parsed other =>
    obtain ⟨length, told, rfl⟩ := ServiceRequest.holds_iff.mp holds
    by_cases great : greatestLength < length
    · exact ⟨.lengthTooGreat, ofRequest_of_great below told great, fun _ impossible => by cases impossible⟩
    · obtain ⟨name, path⟩ := below
      refine ⟨.body fault, ?_, fun _ impossible => by cases impossible⟩
      rw [ofRequest_of_length path.symm told (Nat.le_of_not_lt great), ofBody_of_text some decoded, parsed]
      cases fault with
      | malformed malformed => exact absurd rfl (other malformed)
      | _ => rfl

end Dispatch

variable {request : ServiceRequest}

theorem Response.ofCall_fault {result : Except CallFault Answer} {fault : ServiceFault}
    (failed : ofCall result = .error fault) : ∃ cause, fault = .call cause := by
  cases result with
  | ok answer => cases failed
  | error cause => cases cause <;> cases failed <;> exact ⟨_, rfl⟩

theorem Served.complete_response (listener : Listener) (request : ServiceRequest)
    (response : Except ServiceFault Response) (events : List Event) (place : Place) :
    (complete listener request response events place).response = response := by
  cases response <;> rfl

/-- A request to run a tool is refused or carries the arguments of a call, never both, and what it is decides
alone what is done: one answer and nothing recorded, or the call. Only a request that stumbles gets no answer. -/
theorem serve_refuses_or_calls (service : Service) (listener : Listener) (occasion : Occasion) (place : Place)
    (post : request.method = .post) :
    let served := service.serve listener occasion place request
    (¬ request.Stumbles →
      ((∃ response, request.IsRefused response) ∨ ∃ name fields, request.Carries name fields) ∧
      ¬ ((∃ response, request.IsRefused response) ∧ ∃ name fields, request.Carries name fields) ∧
      (∀ response, request.IsRefused response →
        served = ⟨.ok response, [], listener place [servedNote request response]⟩) ∧
      ∀ name fields, request.Carries name fields →
        let outcome := callTool service.log listener occasion place name (some (.object fields))
          service.defaultCategory
        served = .complete listener request (Response.ofCall outcome.result) outcome.events outcome.place) ∧
    (request.Stumbles → ∃ fault, (∀ cause, fault ≠ .call cause) ∧ served = ⟨.error fault, [], place⟩) := by
  intro served
  refine ⟨fun smooth => ⟨request.isRefused_or_carries, ?_, ?_, ?_⟩, ?_⟩
  · rintro ⟨⟨response, refused⟩, name, fields, carries⟩
    have answered := Dispatch.ofRequest_of_isRefused smooth refused
    cases answered.symm.trans (Dispatch.ofRequest_of_carries smooth carries)
  · intro response refused
    simp only [served, Service.serve, post, Dispatch.ofRequest_of_isRefused smooth refused]
    rfl
  · intro name fields carries
    simp only [served, Service.serve, post, Dispatch.ofRequest_of_carries smooth carries]
  · intro stumbles
    obtain ⟨fault, stopped, cause⟩ := Dispatch.ofRequest_of_stumbles stumbles
    refine ⟨fault, cause, ?_⟩
    simp only [served, Service.serve, post, stopped]
    rfl

/-- A length between blanks, with a sign and an underscore, and a body that goes on after it. -/
theorem serve_calls_within_length :
    let place : Place := ⟨.directory [], []⟩
    let request : ServiceRequest :=
      ⟨[], .post, "/api/tools/x", some " +0_8", Utf8.encode "\x7b\"a\": 1\x7d, and more"⟩
    request.method = .post ∧ ¬ request.Stumbles ∧ request.Carries "x" [("a", .int 1)] ∧
      (Service.serve ⟨.silent, componentCategory⟩ .silent ⟨⟨2024, 1, 1, 0, 0, 0, 0⟩, 1⟩ place request).response =
        .ok (.failure 404 "Unknown tool: x") := by
  intro place request
  let fields : List (Text × Json) := [("a", .int 1)]
  have told : request.TellsLength 8 := ServiceRequest.bodyLength?_eq_some.mp (by decide +kernel)
  have readable : (Json.object fields).IsReadable Json.depthLimit :=
    .object (by decide) (List.forall_mem_singleton.mpr (.int (by decide)))
  have decoded : Json.decodeBytes? (request.body.take 8) = some (Json.object fields).render := by decide +kernel
  have some : request.body.take 8 ≠ [] := by decide +kernel
  have read : (Json.object fields).IsReadFrom (request.body.take 8) :=
    ⟨_, decoded, (Json.parse_render readable).2⟩
  have smooth : ¬ request.Stumbles := by
    intro stumbles
    obtain ⟨fault, stopped, -⟩ := Dispatch.ofRequest_of_stumbles stumbles
    rw [@Dispatch.ofRequest_of_length request "x" 8 rfl told (by decide), Dispatch.ofBody_of_object some read]
      at stopped
    cases stopped
  have carries : request.Carries "x" fields :=
    .object rfl (ServiceRequest.holds_iff.mpr ⟨8, told, rfl⟩) some read
  refine ⟨rfl, smooth, carries, ?_⟩
  rw [((serve_refuses_or_calls _ _ _ place rfl).1 smooth).2.2.2 "x" fields carries]
  rfl

/-- A request whose head tells 2 ^ 63 bytes carries a call, but is neither answered nor passed on. -/
theorem serve_gives_up_great_length :
    ¬ ∀ (service : Service) (listener : Listener) (occasion : Occasion) (place : Place) (request : ServiceRequest),
      request.method = .post →
      let served := service.serve listener occasion place request
      (∃ response, request.IsRefused response ∧
        served = ⟨.ok response, [], listener place [servedNote request response]⟩) ∨
      ∃ name fields, request.Carries name fields ∧
        let outcome := callTool service.log listener occasion place name (some (.object fields))
          service.defaultCategory
        served = .complete listener request (Response.ofCall outcome.result) outcome.events outcome.place := by
  intro always
  let request : ServiceRequest := ⟨[], .post, "/api/tools/x", some "9223372036854775808", []⟩
  let place : Place := ⟨.directory [], []⟩
  have told : request.TellsLength (2 ^ 63) := ServiceRequest.bodyLength?_eq_some.mp (by decide +kernel)
  have stopped : Dispatch.ofRequest request = .fault .lengthTooGreat :=
    Dispatch.ofRequest_of_great ⟨"x", rfl⟩ told (by decide)
  have served : Service.serve ⟨.silent, componentCategory⟩ .silent ⟨⟨2024, 1, 1, 0, 0, 0, 0⟩, 1⟩ place request =
      ⟨.error .lengthTooGreat, [], place⟩ := by
    simp only [Service.serve, request, stopped]
    rfl
  obtain ⟨response, -, answered⟩ | ⟨name, fields, carries, called⟩ :=
    always ⟨.silent, componentCategory⟩ .silent ⟨⟨2024, 1, 1, 0, 0, 0, 0⟩, 1⟩ place request rfl
  · cases served.symm.trans answered
  · have unanswered := congrArg Served.response (served.symm.trans called)
    rw [Served.complete_response] at unanswered
    obtain ⟨_, impossible⟩ := Response.ofCall_fault unanswered.symm
    cases impossible

end ProjectSurvey
