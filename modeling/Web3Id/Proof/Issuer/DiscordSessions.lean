import Web3Id.Construction.Issuer.Services
import Web3Id.Proof.Issuer.OwnResponse

namespace Web3Id.SomeIssuer.Discord

open Library Library.Gateway

/-- The session of a user holds the values of this user only. -/
def User.session (user : User) : Session := ⟨some user.id, some user.storedUsername⟩

/-- A handler has exchanged a code for a bearer token of the identity, and the token for the user. -/
inductive Exchanged (parser : Json) (state : OauthState) (code : String) (user : User)
    (replies : List (DiscordCall × DiscordReply)) : Prop
  | calls {granted identity : Response} {accessToken : String}
      (token : (.oauth2Token (state.tokenRequest code), .ok granted) ∈ replies)
      (success : granted.isSuccess = true)
      (bearer : json parser.accessToken granted = .ok ⟨accessToken, "Bearer", "identify"⟩)
      (me : (.usersMe accessToken, .ok identity) ∈ replies) (found : identity.isSuccess = true)
      (read : json parser.user identity = .ok user) : Exchanged parser state code user replies

/-- One handler of the service has exchanged a code for the user. -/
def Logins.Vouches (parser : Json) (state : OauthState) (self : Logins) (user : User) : Prop :=
  ∃ handler code, Exchanged parser state code user
    ((self.replies.filter fun sent => sent.client = handler).map fun sent => (sent.call, sent.reply))

/-- Only a bearer token for the identity passes the checks. -/
theorem checkToken_ok {response : AccessTokenResponse} {accessToken : String}
    (passes : checkToken response = .ok accessToken) :
    response = ⟨accessToken, "Bearer", "identify"⟩ := by
  obtain ⟨token, tokenType, scope⟩ := response
  unfold checkToken at passes
  split at passes
  · cases passes
  · split at passes
    · cases passes
    · rename_i bearer identity
      simp only [not_not] at bearer identity
      cases passes
      rw [bearer, identity]

/-- An accepted token comes from a successful answer. -/
theorem readToken_ok {parser : Json} {reply : DiscordReply} {accessToken : String}
    (passes : readToken parser reply = .ok accessToken) :
    ∃ response, reply = .ok response ∧ response.isSuccess = true ∧
      json parser.accessToken response = .ok ⟨accessToken, "Bearer", "identify"⟩ := by
  cases reply with
  | error error => cases passes
  | ok response =>
      simp only [readToken] at passes
      split at passes
      · cases passes
      · rename_i success
        refine ⟨response, rfl, by simpa using success, ?_⟩
        cases read : json parser.accessToken response with
        | error error =>
            rw [read] at passes
            cases passes
        | ok found =>
            rw [read] at passes
            rw [checkToken_ok passes]

/-- A user comes from a successful answer. -/
theorem readUser_ok {parser : Json} {reply : DiscordReply} {user : User}
    (passes : readUser parser reply = .ok user) :
    ∃ response, reply = .ok response ∧ response.isSuccess = true ∧
      json parser.user response = .ok user := by
  cases reply with
  | error error => cases passes
  | ok response =>
      simp only [readUser] at passes
      split at passes
      · cases passes
      · rename_i success
        exact ⟨response, rfl, by simpa using success, passes⟩

/-- A handler ends with an error, with the page for an error, or with the login of a user. -/
inductive Redirected (parser : Json) (state : OauthState)
    (trace : List (DiscordCall × DiscordReply)) :
    Except StatusCode (List Char) × Option Session → Prop
  | refused : Redirected parser state trace (.error .badRequest, none)
  | error (text : String) :
      Redirected parser state trace (.ok (oauthError state.toAppState text), none)
  | login {code : String} {user : User} (exchanged : Exchanged parser state code user trace) :
      Redirected parser state trace
        (.ok (makeOauthRedirectResponse state.toAppState user).2, some user.session)

/-- A handler logs a user in only after it has exchanged its code for this user. -/
theorem handleOauthRedirect_redirected {parser : Json} {state : OauthState}
    {params : Oauth2RedirectParams} {trace : List (DiscordCall × DiscordReply)}
    {result : Except StatusCode (List Char) × Option Session}
    (leaves : Program.Leaves (state.handleOauthRedirect parser params) trace (.pure result)) :
    Redirected parser state trace result := by
  unfold OauthState.handleOauthRedirect OauthState.getUser at leaves
  split at leaves
  · rename_i code _
    rw [Program.call_bind] at leaves
    obtain ⟨-, same⟩ | ⟨granted, later, rfl, rest⟩ := leaves.of_call
    · cases same
    · cases token : readToken parser granted with
      | error error =>
          rw [token] at rest
          obtain ⟨-, same⟩ := rest.of_pure
          rw [Program.pure.inj same]
          exact .refused
      | ok accessToken =>
          rw [token] at rest
          simp only [Program.call_bind] at rest
          obtain ⟨-, same⟩ | ⟨identity, none, rfl, ends⟩ := rest.of_call
          · cases same
          · cases read : readUser parser identity with
            | error error =>
                rw [read] at ends
                obtain ⟨-, same⟩ := ends.of_pure
                rw [Program.pure.inj same]
                exact .refused
            | ok user =>
                rw [read] at ends
                obtain ⟨rfl, same⟩ := ends.of_pure
                rw [Program.pure.inj same]
                obtain ⟨response, rfl, success, bearer⟩ := readToken_ok token
                obtain ⟨body, rfl, found, me⟩ := readUser_ok read
                have exchanged : Exchanged parser state code user
                    [(.oauth2Token (state.tokenRequest code), .ok response),
                      (.usersMe accessToken, .ok body)] :=
                  .calls List.mem_cons_self success bearer
                    (List.mem_cons_of_mem _ List.mem_cons_self) found me
                exact .login exchanged
  · split at leaves
    · rename_i text _
      obtain ⟨-, same⟩ := leaves.of_pure
      rw [Program.pure.inj same]
      exact .error text
    · obtain ⟨-, same⟩ := leaves.of_pure
      rw [Program.pure.inj same]
      exact .refused

/-- Every cookie holds the values of one user, and every handler follows its program. -/
structure Logins.Sound (parser : Json) (state : OauthState) (logins : Logins) : Prop where
  cookies : ∀ session ∈ logins.cookies, ∃ user, logins.Vouches parser state user ∧
    session = user.session
  redirects : ∀ handler redirect, logins.redirects handler = some redirect →
    ∃ params trace, Program.Leaves (state.handleOauthRedirect parser params) trace
        redirect.program ∧
      ∀ exchange ∈ trace, ⟨handler, exchange.1, exchange.2⟩ ∈ logins.replies

theorem Exchanged.mono {parser : Json} {state : OauthState} {code : String} {user : User}
    {replies more : List (DiscordCall × DiscordReply)}
    (exchanged : Exchanged parser state code user replies)
    (keeps : ∀ exchange ∈ replies, exchange ∈ more) :
    Exchanged parser state code user more := by
  cases exchanged with
  | calls token success bearer me found read =>
      exact .calls (keeps _ token) success bearer (keeps _ me) found read

/-- A handler vouches by the replies that it has got. -/
theorem Exchanged.vouches {parser : Json} {state : OauthState} {self : Logins} {handler : Nat}
    {code : String} {user : User} {trace : List (DiscordCall × DiscordReply)}
    (exchanged : Exchanged parser state code user trace)
    (kept : ∀ exchange ∈ trace, ⟨handler, exchange.1, exchange.2⟩ ∈ self.replies) :
    self.Vouches parser state user := by
  refine ⟨handler, code, exchanged.mono ?_⟩
  intro exchange listed
  exact List.mem_map.mpr ⟨_, List.mem_filter.mpr ⟨kept exchange listed, decide_eq_true rfl⟩, rfl⟩

/-- More replies vouch for the same users. -/
theorem Logins.Vouches.mono {parser : Json} {state : OauthState} {self other : Logins}
    {user : User} (vouches : self.Vouches parser state user)
    (keeps : ∀ sent ∈ self.replies, sent ∈ other.replies) : other.Vouches parser state user := by
  obtain ⟨handler, code, exchanged⟩ := vouches
  refine ⟨handler, code, exchanged.mono ?_⟩
  intro exchange member
  obtain ⟨sent, listed, rfl⟩ := List.mem_map.mp member
  obtain ⟨before, own⟩ := List.mem_filter.mp listed
  exact List.mem_map.mpr ⟨sent, List.mem_filter.mpr ⟨keeps sent before, own⟩, rfl⟩

/-- The session of a cookie belongs to one user, and a client without a cookie has none. -/
theorem Logins.Sound.load {parser : Json} {state : OauthState} {self : Logins}
    (sound : self.Sound parser state) (cookie : Option Nat) :
    self.load cookie = .empty ∨
      ∃ user, self.Vouches parser state user ∧ self.load cookie = user.session := by
  unfold Logins.load
  cases found : cookie.bind fun index => self.cookies[index]? with
  | none => exact .inl rfl
  | some session =>
      right
      obtain ⟨index, -, present⟩ := Option.bind_eq_some_iff.mp found
      exact sound.cookies session (List.mem_of_getElem? present)

/-- A handler that follows its program keeps the cookies sound. -/
theorem Logins.Sound.settle {parser : Json} {state : OauthState} {self : Logins}
    (sound : self.Sound parser state) {handler : Nat} {params : Oauth2RedirectParams}
    {trace : List (DiscordCall × DiscordReply)}
    {program : Program DiscordCall (fun _ => DiscordReply)
      (Except StatusCode (List Char) × Option Session)}
    (leaves : Program.Leaves (state.handleOauthRedirect parser params) trace program)
    (kept : ∀ exchange ∈ trace, ⟨handler, exchange.1, exchange.2⟩ ∈ self.replies)
    (loaded : Session) : (self.settle handler loaded program).Sound parser state := by
  have others : ∀ value, (∀ redirect, value = some redirect → redirect.program = program) →
      Logins.Sound parser state
        { self with redirects := Function.update self.redirects handler value } := by
    intro value follows
    refine ⟨sound.cookies, ?_⟩
    intro other redirect running
    by_cases same : other = handler
    · subst same
      refine ⟨params, trace, ?_, kept⟩
      rw [follows redirect (by simpa using running)]
      exact leaves
    · exact sound.redirects other redirect (by simpa [Function.update_of_ne same] using running)
  cases program with
  | call call next => exact others _ fun redirect same => by cases same; rfl
  | pure value =>
      obtain ⟨result, session⟩ := value
      have done := others none (by simp)
      cases session with
      | none => exact done
      | some session =>
          simp only [Logins.settle, Logins.respond]
          split
          · exact done
          · refine ⟨?_, done.redirects⟩
            intro other member
            rcases List.mem_append.mp member with before | now
            · exact done.cookies other before
            · cases List.mem_singleton.mp now
              cases handleOauthRedirect_redirected leaves with
              | @login code user exchanged =>
                  exact ⟨user, exchanged.vouches kept, rfl⟩

@[simp] theorem Logins.respond_replies (self : Logins) (loaded : Session)
    (session : Option Session) : (self.respond loaded session).replies = self.replies := by
  unfold Logins.respond
  split
  · rfl
  · split <;> rfl

@[simp] theorem Logins.settle_replies (self : Logins) (handler : Nat) (loaded : Session)
    (program : Program DiscordCall (fun _ => DiscordReply)
      (Except StatusCode (List Char) × Option Session)) :
    (self.settle handler loaded program).replies = self.replies := by
  cases program with
  | call call next => rfl
  | pure value => exact Logins.respond_replies _ _ _

/-- A reply is added for its handler. -/
theorem Logins.Sound.record {parser : Json} {state : OauthState} {self : Logins}
    (sound : self.Sound parser state) (sent : Worker.Sent DiscordCall DiscordReply) :
    (self.record sent).Sound parser state where
  cookies session member := by
    obtain ⟨user, vouches, same⟩ := sound.cookies session member
    exact ⟨user, vouches.mono fun _ => List.mem_append_left _, same⟩
  redirects handler redirect running := by
    obtain ⟨params, trace, leaves, kept⟩ := sound.redirects handler redirect running
    exact ⟨params, trace, leaves, fun exchange listed =>
      List.mem_append_left _ (kept exchange listed)⟩

/-- Every request keeps the cookies sound. -/
theorem Logins.Sound.step {parser : Json} {state : OauthState} {self : Logins}
    (sound : self.Sound parser state) (request : Request) :
    (self.step parser state request).1.Sound parser state := by
  cases request with
  | redirect handler cookie params =>
      simp only [Logins.step]
      split
      · exact sound.settle (.start _) (by simp) _
      · exact sound
  | reply handler reply =>
      simp only [Logins.step]
      split
      · rename_i loaded call next running
        obtain ⟨params, trace, leaves, kept⟩ := sound.redirects handler _ running
        refine (sound.record _).settle (leaves.snoc reply) ?_ loaded
        intro exchange listed
        rcases List.mem_append.mp listed with before | now
        · exact List.mem_append_left _ (kept exchange before)
        · cases List.mem_singleton.mp now
          exact List.mem_append_right _ (List.mem_singleton.mpr rfl)
      · exact sound
  | timeout handler =>
      refine ⟨sound.cookies, ?_⟩
      intro other redirect running
      by_cases same : other = handler
      · subst same
        simp [Logins.step] at running
      · apply sound.redirects other redirect
        simpa [Logins.step, Function.update_of_ne same] using running
  | credential cookie credential => exact sound

theorem Logins.step_replies (parser : Json) (state : OauthState) (self : Logins)
    (request : Request) :
    ∀ sent ∈ self.replies, sent ∈ (self.step parser state request).1.replies := by
  intro sent member
  cases request with
  | redirect handler cookie params =>
      simp only [Logins.step]
      split
      · rw [settle_replies]
        exact member
      · exact member
  | reply handler reply =>
      simp only [Logins.step]
      split
      · rw [settle_replies]
        exact List.mem_append_left _ member
      · exact member
  | timeout handler => exact member
  | credential cookie credential => exact member

/-- The job carries the id and the name of one user that Discord has returned for a code. -/
def Logins.Names (parser : Json) (state : OauthState) (self : Logins) (job : IssueChannelData) :
    Prop :=
  ∃ user, self.Vouches parser state user ∧ job.userId = user.id ∧
    job.username = user.storedUsername

/-- A session of a user hands over a job for this user. -/
theorem issueDiscordCredential_session {user : User} {credential : CredentialInfo}
    {job : IssueChannelData}
    (handed : (issueDiscordCredential user.session credential).firstCall = some job) :
    job = ⟨credential, user.id, user.storedUsername⟩ := by
  simpa [issueDiscordCredential, User.session, sendTx, Program.firstCall] using handed.symm

theorem gateway_authorises (parser : Json) (state : OauthState) :
    (gateway parser state).Authorises (Logins.Sound parser state) (Logins.Names parser state) where
  keeps front request sound := sound.step request
  grows front request job sound := by
    rintro ⟨user, vouches, userId, username⟩
    exact ⟨user, vouches.mono (front.step_replies parser state request), userId, username⟩
  hands front request job sound handed := by
    cases request with
    | redirect handler cookie params =>
        simp only [gateway, Logins.step] at handed
        split at handed <;> cases handed
    | reply handler reply =>
        simp only [gateway, Logins.step] at handed
        split at handed <;> cases handed
    | timeout handler => cases handed
    | credential cookie credential =>
        simp only [gateway, Logins.step] at handed
        rcases sound.load cookie with empty | ⟨user, vouches, same⟩
        · rw [empty] at handed
          cases handed
        · rw [same] at handed
          rw [issueDiscordCredential_session handed]
          exact ⟨user, vouches, rfl, rfl⟩

theorem Logins.start_sound (parser : Json) (state : OauthState) :
    Logins.start.Sound parser state where
  cookies := by simp [Logins.start]
  redirects := by simp [Logins.start]

/-- A run of the Discord issuer from its start. -/
def run (parser : Json) (state : OauthState) (sdk : Sdk) (capacity : Nat) (worker : IssuerWorker)
    (events : List (IssuerEvent Request)) : IssuerService Logins :=
  Service.run (gateway parser state) (channelWorker sdk capacity) (.start .start worker) events

/-- In every run the Discord issuer hands over jobs of users that Discord has vouched for. -/
theorem run_guarded (parser : Json) (state : OauthState) (sdk : Sdk) (capacity : Nat)
    (worker : IssuerWorker) (events : List (IssuerEvent Request)) :
    Guarded (channelWorker sdk capacity) worker.SameIssuer (fun _ _ => True)
      (Logins.Sound parser state) (Logins.Names parser state)
      (run parser state sdk capacity worker events) :=
  (Guarded.start (Logins.start_sound parser state) (.refl worker)).run
    (gateway_authorises parser state) (channelWorker_keeps sdk capacity worker) events

/-- The credential names one user that Discord has returned to the service for a code, and the
holder of the request for it. -/
def IssuedTo (parser : Json) (state : OauthState) (service : IssuerService Logins)
    (client : Nat) (response : IssueResponse) (user : User) : Prop :=
  service.front.Vouches parser state user ∧
    response.credential.values = attributes user.id user.storedUsername ∧
    ∃ data, (client, data) ∈ service.handed ∧
      response.credential.holderId = data.credential.holderId ∧
      ∃ call, service.system.callsOf client = [(call, .ok response.txHash)] ∧
        call.credential = data.credential

/-- Whatever the order of redirects, replies, timeouts, and requests with any signed cookie, every
credential that the Discord issuer returns carries the id and the name of one and the same user, for
whom a handler has exchanged a code with a bearer token of the identity. -/
theorem discordIssuer_namesLogin (parser : Json) (state : OauthState) (sdk : Sdk) (capacity : Nat)
    (worker : IssuerWorker) (events : List (IssuerEvent Request)) :
    let service := run parser state sdk capacity worker events
    (∀ entry ∈ service.handed, service.front.Names parser state entry.2) ∧
      ∀ client response, Worker.Client.answer (service.system.clients client) = some (.ok response) →
        ∃ user, IssuedTo parser state service client response user := by
  intro service
  have guarded := run_guarded parser state sdk capacity worker events
  refine ⟨guarded.jobs, ?_⟩
  intro client response got
  obtain ⟨data, call, handed, made, submits, calls⟩ := issued_of_traced guarded.system got
  obtain ⟨user, vouches, userId, username⟩ := guarded.jobs _ handed
  refine ⟨user, vouches, ?_, data, handed, made.holder, call, calls, submits.credential⟩
  rw [made.values, userId, username]

end Web3Id.SomeIssuer.Discord
