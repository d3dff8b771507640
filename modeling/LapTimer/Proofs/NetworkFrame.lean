import LapTimer.Proofs.JsonViews
import LapTimer.Proofs.ReaderWays

/-! What requests do to an instrument. A request comes down to one operation or to none, and is
answered with an envelope. -/

namespace LapTimer

/-- A read moves the read cursor and nothing else. -/
theorem LapBook.readNext_moves (book : LapBook) :
    book.readNext.1 = { book with readCursor := book.readNext.1.readCursor } := by
  unfold readNext
  split
  · rfl
  · split
    · split <;> rfl
    · rfl

theorem LapMode.ofNumber?_eq_some (n : UInt8) (mode : LapMode) :
    ofNumber? n = some mode ↔ n = mode.number := by
  constructor
  · intro named
    unfold ofNumber? at named
    split at named
    · cases named
      rfl
    · cases named
      rfl
    · simp at named
  · rintro rfl
    cases mode <;> rfl

namespace Http

/-- The mode that the body of a request says, if it says one and is not too long. -/
def Request.mode? (request : Request) : Option LapMode :=
  if request.body.length ≤ bodyLimit then
    (Form.read? request.body).bind fun asked : ModeRequest => LapMode.ofNumber? asked.mode
  else none

/-- The operation that a request comes down to. -/
def Request.effect? (request : Request) : Option InstrumentOp :=
  if request.method = "POST" then
    match Resource.ofPath? request.path with
    | some .record => some .readRecord
    | some .mode => request.mode?.map .setMode
    | _ => none
  else none

theorem Request.mode?_eq_some (request : Request) (mode : LapMode) :
    request.mode? = some mode ↔ request.body.length ≤ bodyLimit ∧
      Form.read? request.body = some (⟨mode.number⟩ : ModeRequest) := by
  unfold mode?
  by_cases short : request.body.length ≤ bodyLimit
  · rw [if_pos short, Option.bind_eq_some_iff]
    constructor
    · rintro ⟨⟨asked⟩, read, named⟩
      rw [LapMode.ofNumber?_eq_some] at named
      exact ⟨short, named ▸ read⟩
    · rintro ⟨_, read⟩
      exact ⟨_, read, (LapMode.ofNumber?_eq_some _ mode).mpr rfl⟩
  · simp [short]

theorem Resource.ofPath?_eq_some (path : String) (resource : Resource) :
    ofPath? path = some resource ↔ path = resource.path := by
  constructor
  · intro found
    unfold ofPath? at found
    have matching := List.find?_some found
    exact (beq_iff_eq.mp matching).symm
  · rintro rfl
    cases resource <;> decide

theorem Request.effect?_record (request : Request) (posted : request.method = "POST")
    (path : request.path = "/api/record") : request.effect? = some .readRecord := by
  have found := (Resource.ofPath?_eq_some request.path .record).mpr path
  simp [effect?, posted, found]

theorem Request.effect?_mode (request : Request) (posted : request.method = "POST")
    (path : request.path = "/api/laps/mode") :
    request.effect? = request.mode?.map .setMode := by
  have found := (Resource.ofPath?_eq_some request.path .mode).mpr path
  simp [effect?, posted, found]

theorem Request.effect?_other (request : Request)
    (other : ¬ (request.method = "POST" ∧
      (request.path = "/api/record" ∨ request.path = "/api/laps/mode"))) :
    request.effect? = none := by
  unfold effect?
  split
  next posted =>
      split
      next found =>
          exact absurd ⟨posted, .inl ((Resource.ofPath?_eq_some _ _).mp found)⟩ other
      next found =>
          exact absurd ⟨posted, .inr ((Resource.ofPath?_eq_some _ _).mp found)⟩ other
      next => rfl
  next => rfl

variable {P L : Type}

theorem postMode_mode? (unit : Instrument P L) (request : Request) :
    (postMode unit request.body).1 = request.mode?.elim unit unit.setMode := by
  unfold postMode Request.mode?
  by_cases short : request.body.length ≤ bodyLimit
  · rw [if_neg (Nat.not_lt.mpr short), if_pos short]
    cases (Form.read? request.body : Option ModeRequest) with
    | none => rfl
    | some asked =>
        simp only [Option.bind_some]
        cases LapMode.ofNumber? asked.mode <;> rfl
  · rw [if_pos (Nat.lt_of_not_le short), if_neg short]
    rfl

variable [Sink P Display.Write] [Sink L Switch]

theorem route_effect (unit : Instrument P L) (request : Request) :
    (route unit request).1 = (unit.run request.effect?.toList).1 := by
  unfold route Request.effect?
  cases Resource.ofPath? request.path with
  | none => simp [runBy]
  | some resource =>
      by_cases posted : request.method = "POST"
      · cases resource with
        | mode =>
            have set := postMode_mode? unit request
            simp only [onResource, posted, ↓reduceIte]
            cases said : request.mode? with
            | none => simp [said, set, runBy]
            | some mode => simp [said, set, runBy, Instrument.step]
        | record => simp [onResource, posted, postRecord, runBy, Instrument.step]
        | _ => simp [onResource, posted, runBy]
      · simp only [onResource, posted, ↓reduceIte]
        split <;> simp [runBy]

theorem serve_effect (welcome : Bool) (unit : Instrument P L) (request : Request) :
    (serve welcome unit request).1 = (unit.run request.effect?.toList).1 := by
  unfold serve
  split
  next asks =>
      have posted : request.method ≠ "POST" := by
        simp only [Bool.and_eq_true, decide_eq_true_eq] at asks
        simp [asks.2]
      simp [Request.effect?, posted, runBy]
  next => exact route_effect unit request

/-- The final instrument and the answer to every request in turn. -/
def serveAll (welcome : Bool) (unit : Instrument P L) :
    List Request → Instrument P L × List Response
  | [] => (unit, [])
  | request :: rest =>
      let (next, response) := serve welcome unit request
      let (final, responses) := serveAll welcome next rest
      (final, response :: responses)

theorem serveAll_effects (welcome : Bool) (unit : Instrument P L) (requests : List Request) :
    (serveAll welcome unit requests).1 =
      (unit.run (requests.filterMap Request.effect?)).1 := by
  induction requests generalizing unit with
  | nil => rfl
  | cons request rest ih =>
      have first := serve_effect welcome unit request
      simp only [serveAll, ih, first, List.filterMap_cons]
      cases request.effect? <;> rfl

/-- The body is an envelope: with data and no error for a success, which has the status
200, and with an error and no data for anything else. -/
def Response.Enveloped (response : Response) : Prop :=
  ∃ json, Json.parse? response.body = some json ∧
    (response.status = 200 ∧ (∃ data, Form.fields? ["success", "data", "error"] json =
        some [some (.bool true), some data, none]) ∨
      response.status ≠ 200 ∧ ∃ message, Form.fields? ["success", "data", "error"] json =
        some [some (.bool false), none, some (Json.ofString message)])

/-- A success has the status 200 and a page, anything else an error. -/
def Reply.Fair : Reply → Prop
  | .json status content =>
      status = 200 ∧ (∃ page, content = .ok page) ∨
        status ≠ 200 ∧ ∃ message, content = .fail message
  | _ => True

theorem Reply.Fair.enveloped {status : Nat} {content : Envelope Page}
    (fair : Fair (.json status content)) : (Reply.json status content).response.Enveloped := by
  have written : (content.json Page.json).Written := by
    apply Form.written_ofFields
    simp only [List.forall_mem_cons]
    refine ⟨Form.written_required _, ?_, Form.written_omittable _, List.forall_mem_nil _⟩
    intro json told
    obtain ⟨page, _, rfl⟩ := Option.map_eq_some_iff.mp told
    exact page.written
  have read : Form.fields? ["success", "data", "error"] (content.json Page.json) =
      some [some (Form.toJson content.success), content.data.map Page.json,
        content.error.map Form.toJson] :=
    Form.fields?_ofFields [("success", some (Form.toJson content.success)),
      ("data", content.data.map Page.json), ("error", content.error.map Form.toJson)] (by simp)
  refine ⟨content.json Page.json, written.parse?_bytes, ?_⟩
  rcases fair with ⟨rfl, page, rfl⟩ | ⟨other, message, rfl⟩
  · exact .inl ⟨rfl, page.json, read⟩
  · exact .inr ⟨other, message, read⟩

omit [Sink P Display.Write] [Sink L Switch] in
theorem fair_look (unit : Instrument P L) (resource : Resource) : (look unit resource).Fair := by
  cases resource with
  | record => trivial
  | _ => exact .inl ⟨rfl, _, rfl⟩

omit [Sink P Display.Write] [Sink L Switch] in
theorem fair_postMode (unit : Instrument P L) (body : List UInt8) :
    (postMode unit body).2.Fair := by
  unfold postMode
  split
  · trivial
  · split
    · exact .inr ⟨by decide, _, rfl⟩
    · split
      · exact .inr ⟨by decide, _, rfl⟩
      · exact .inl ⟨rfl, _, rfl⟩

omit [Sink P Display.Write] [Sink L Switch] in
theorem fair_onResource (unit : Instrument P L) (request : Request) (resource : Resource) :
    (onResource unit request resource).2.Fair := by
  unfold onResource
  split
  · exact fair_look unit resource
  · split
    · cases resource with
      | mode => exact fair_postMode unit request.body
      | record => exact .inl ⟨rfl, _, rfl⟩
      | _ => trivial
    · trivial

/-- Whatever is answered is an envelope, or has no body, or refuses a body as too long. -/
inductive Answered (request : Request) : Response → Prop
  | enveloped {response : Response} (envelope : response.Enveloped)
      (json : ("content-type", "application/json") ∈ response.headers) :
      Answered request response
  | empty {response : Response} (empty : response.body = [])
      (json : ("content-type", "application/json") ∈ response.headers →
        request.method = "HEAD") : Answered request response
  | tooLong {response : Response} (status : response.status = 413)
      (plain : ("content-type", "application/json") ∉ response.headers) :
      Answered request response

theorem answered_reply (request : Request) (reply : Reply) (fair : reply.Fair) :
    Answered request reply.response := by
  cases reply with
  | json status content => exact .enveloped fair.enveloped (by simp [Reply.response])
  | notAllowed resource => exact .empty rfl (by simp [Reply.response])
  | tooLong => exact .tooLong rfl (by simp [Reply.response])

omit [Sink P Display.Write] [Sink L Switch] in
theorem answered_route (unit : Instrument P L) (request : Request) :
    Answered request (route unit request).2 := by
  unfold route
  split
  · exact answered_reply request .notFound (.inr ⟨by decide, _, rfl⟩)
  next resource _ =>
      have fair := fair_onResource unit request resource
      simp only
      split
      next head => exact .empty rfl fun _ => head
      next => exact answered_reply request _ fair

theorem Answered.welcomed {request : Request} {response : Response}
    (answered : Answered request response) :
    Answered request { response with headers := response.headers ++ welcomeHeaders } := by
  have others : ("content-type", "application/json") ∉ welcomeHeaders := by decide
  have same : ("content-type", "application/json") ∈ response.headers ++ welcomeHeaders ↔
      ("content-type", "application/json") ∈ response.headers := by simp [others]
  cases answered with
  | enveloped envelope json => exact .enveloped envelope (same.mpr json)
  | empty empty json => exact .empty empty fun told => json (same.mp told)
  | tooLong status plain => exact .tooLong status fun told => plain (same.mp told)

omit [Sink P Display.Write] [Sink L Switch] in
theorem answered_serve (welcome : Bool) (unit : Instrument P L) (request : Request) :
    Answered request (serve welcome unit request).2 := by
  unfold serve
  split
  · apply Answered.empty rfl
    intro json
    simp only [preflight, welcomeHeaders] at json
    split at json <;> simp at json
  · have answered := answered_route unit request
    simp only
    split
    · exact answered.welcomed
    · exact answered

/--
A sequence of requests, each with any method, path and body, does to an instrument what the
operations do that it comes down to. In whatever state a request is met: a post to the
record moves the read cursor as one read does; a post to the mode sets the mode if the body
says one and is not too long; and that is all that any request changes. Every answer with
JSON in it is an envelope with data and status 200 or with an error and another status; the
answers without are those to a request for a head, to a preflight, to a method that is not
allowed and to a body that is too long.
-/
theorem requests_frame (welcome : Bool) (unit : Instrument P L) (requests : List Request) :
    (serveAll welcome unit requests).1 =
        (unit.run (requests.filterMap Request.effect?)).1 ∧
      ∀ (met : Instrument P L) (request : Request),
        let next := (serve welcome met request).1
        let watch := met.watch
        (request.method = "POST" → request.path = "/api/record" →
          next = met.readRecord.1 ∧
            next = { met with watch := { watch with book := { watch.book with
              readCursor := next.watch.book.readCursor } } }) ∧
          (request.method = "POST" → request.path = "/api/laps/mode" →
            (∀ mode : LapMode, request.body.length ≤ bodyLimit →
              Form.read? request.body = some (⟨mode.number⟩ : ModeRequest) →
                next = { met with watch := { watch with mode } }) ∧
              ((∀ mode : LapMode,
                Form.read? request.body ≠ some (⟨mode.number⟩ : ModeRequest)) →
                  next = met) ∧
              (bodyLimit < request.body.length → next = met)) ∧
          (¬ (request.method = "POST" ∧
              (request.path = "/api/record" ∨ request.path = "/api/laps/mode")) →
            next = met) ∧
          Answered request (serve welcome met request).2 := by
  refine ⟨serveAll_effects welcome unit requests, ?_⟩
  intro met request next watch
  have effect : next = (met.run request.effect?.toList).1 := serve_effect welcome met request
  refine ⟨?_, ?_, ?_, answered_serve welcome met request⟩
  · intro posted path
    have reads : next = met.readRecord.1 := by
      rw [effect, request.effect?_record posted path]
      rfl
    refine ⟨reads, ?_⟩
    rw [reads]
    have moves := watch.book.readNext_moves
    simp only [Instrument.readRecord, Stopwatch.readRecord]
    rw [← moves]
  · intro posted path
    rw [request.effect?_mode posted path] at effect
    have silent : (∀ mode, request.mode? ≠ some mode) → next = met := by
      intro said
      rw [effect, Option.eq_none_iff_forall_ne_some.mpr said]
      rfl
    refine ⟨?_, ?_, ?_⟩
    · intro mode short read
      rw [effect, (request.mode?_eq_some mode).mpr ⟨short, read⟩]
      rfl
    · intro unread
      exact silent fun mode said => unread mode ((request.mode?_eq_some mode).mp said).2
    · intro long
      exact silent fun mode said =>
        Nat.not_le.mpr long ((request.mode?_eq_some mode).mp said).1
  · intro other
    rw [effect, request.effect?_other other]
    rfl

end Http

end LapTimer
