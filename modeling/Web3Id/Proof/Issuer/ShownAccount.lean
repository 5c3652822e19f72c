import Web3Id.Construction.Issuer.DiscordApp
import Web3Id.Proof.Issuer.DiscordAgreement
import Web3Id.Proof.Issuer.DiscordSessions

namespace Web3Id.SomeIssuer.Discord

open Library Library.StringLiteral

/-- The service has more cookies and more replies than before. -/
structure Logins.Grows (first second : Logins) : Prop where
  cookies : first.cookies <+: second.cookies
  replies : ∀ sent ∈ first.replies, sent ∈ second.replies

theorem Logins.respond_grows (self : Logins) (loaded : Session) (session : Option Session) :
    self.Grows (self.respond loaded session) := by
  refine ⟨?_, fun sent member => by rwa [respond_replies]⟩
  unfold Logins.respond
  split
  · exact List.prefix_rfl
  · split
    · exact List.prefix_rfl
    · exact List.prefix_append _ _

theorem Logins.settle_grows (self : Logins) (handler : Nat) (loaded : Session)
    (program : Program DiscordCall (fun _ => DiscordReply)
      (Except StatusCode (List Char) × Option Session)) :
    self.Grows (self.settle handler loaded program) := by
  cases program with
  | call call next => exact ⟨List.prefix_rfl, fun _ => id⟩
  | pure value =>
      obtain ⟨page, session⟩ := value
      have ended := Logins.respond_grows
        { self with redirects := Function.update self.redirects handler none } loaded session
      exact ⟨ended.cookies, ended.replies⟩

/-- A handler that goes on or ends leaves the others as they are. -/
theorem Logins.settle_redirects (self : Logins) {handler other : Nat} (different : other ≠ handler)
    (loaded : Session) (program : Program DiscordCall (fun _ => DiscordReply)
      (Except StatusCode (List Char) × Option Session)) :
    (self.settle handler loaded program).redirects other = self.redirects other := by
  cases program with
  | call call next => exact Function.update_of_ne different _ _
  | pure value =>
      obtain ⟨page, session⟩ := value
      simp only [Logins.settle, Logins.respond]
      split
      · exact Function.update_of_ne different _ _
      · split <;> exact Function.update_of_ne different _ _

/-- A handler without an answer goes on. -/
theorem Logins.settle_unanswered {self : Logins} {handler : Nat} {loaded : Session}
    {program : Program DiscordCall (fun _ => DiscordReply)
      (Except StatusCode (List Char) × Option Session)}
    (unanswered : self.answer loaded program = none) :
    (self.settle handler loaded program).redirects handler = some ⟨loaded, program⟩ := by
  cases program with
  | call call next => exact Function.update_self _ _ _
  | pure value =>
      obtain ⟨page, session⟩ := value
      cases session <;> cases unanswered

theorem Logins.step_grows (parser : Json) (state : OauthState) (self : Logins)
    (request : Request) : self.Grows (self.step parser state request).1 := by
  refine ⟨?_, self.step_replies parser state request⟩
  cases request with
  | redirect handler cookie params =>
      simp only [Logins.step]
      split
      · exact (self.settle_grows _ _ _).cookies
      · exact List.prefix_rfl
  | reply handler reply =>
      simp only [Logins.step]
      split
      · exact ((self.record _).settle_grows _ _ _).cookies
      · exact List.prefix_rfl
  | timeout handler => exact List.prefix_rfl
  | credential cookie credential => exact List.prefix_rfl

/-- A known cookie keeps its session. -/
theorem Logins.Grows.load {first second : Logins} (grows : first.Grows second)
    {cookie : Option Nat} (valid : ∀ index, cookie = some index → index < first.cookies.length) :
    second.load cookie = first.load cookie := by
  cases cookie with
  | none => rfl
  | some index =>
      obtain ⟨more, same⟩ := grows.cookies
      simp only [Logins.load, Option.bind_some, ← same,
        List.getElem?_append_left (valid index rfl)]

/-- Two texts with the same start differ behind it. -/
theorem append_toList_cancel {start first second : String} {before after : List Char}
    (same : (start ++ first).toList ++ before = (start ++ second).toList ++ after) :
    first.toList ++ before = second.toList ++ after := by
  simp only [String.toList_append, List.append_assoc] at same
  exact List.append_cancel_left same

/-- The two pages differ in the type of their message. -/
theorem expect_errorStart (rest : List Char) : expect pageStart (errorStart ++ rest) = none := by
  unfold expect
  rw [if_neg]
  rintro ⟨more, same⟩
  unfold pageStart errorStart at same
  have letters := congrArg (fun text => text[15]?) (append_toList_cancel same)
  change some 's' = some 'e' at letters
  cases letters

/-- The page for an error posts at most an empty account. -/
theorem posted_oauthError {state : AppState} (html : state.handlebars.Html) {error : String}
    {user : Message} (posts : posted (oauthError state error) = some user) : user = ⟨[], []⟩ := by
  simp only [oauthError] at posts
  split at posts
  · have empty : literal state.handlebars "" = some [] := rfl
    rw [posted_oauth html] at posts
    simp only [empty, Option.bind_some, Option.bind_eq_some_iff, Option.some.injEq] at posts
    obtain ⟨_, -, _, -, rfl⟩ := posts
    rfl
  · simp only [posted, expect_errorStart, bind, Option.bind_none] at posts
    cases posts

/-- The message shows the user of the session, or an empty account without a session. -/
def Logins.Shows (parser : Json) (state : OauthState) (self : Logins) (user : Message) :
    Option Session → Prop
  | none => user = ⟨[], []⟩
  | some session => ∃ login : User, self.Vouches parser state login ∧ session = login.session ∧
      posted (makeOauthRedirectResponse state.toAppState login).2 = some user

/-- The answer of a handler posts the user of its session, which its cookie holds unless the handler
has loaded it. -/
structure Logins.Sends (parser : Json) (state : OauthState) (logins : Logins) (loaded : Session)
    (answer : RedirectAnswer) : Prop where
  shows : ∀ user, answer.message = some user → logins.Shows parser state user answer.session
  stored : ∀ index, answer.cookie = some index →
    ∃ session, answer.session = some session ∧ logins.cookies[index]? = some session
  kept : answer.cookie = none → ∀ session ∈ answer.session, loaded = session

theorem Logins.Grows.shows {parser : Json} {state : OauthState} {first second : Logins}
    (grows : first.Grows second) {user : Message} {session : Option Session}
    (shows : first.Shows parser state user session) : second.Shows parser state user session := by
  cases session with
  | none => exact shows
  | some session =>
      obtain ⟨login, vouches, same, posts⟩ := shows
      exact ⟨login, vouches.mono grows.replies, same, posts⟩

theorem Logins.Grows.sends {parser : Json} {state : OauthState} {first second : Logins}
    (grows : first.Grows second) {loaded : Session} {answer : RedirectAnswer}
    (sends : first.Sends parser state loaded answer) : second.Sends parser state loaded answer where
  shows user posts := grows.shows (sends.shows user posts)
  stored index new := by
    obtain ⟨session, same, found⟩ := sends.stored index new
    obtain ⟨more, equal⟩ := grows.cookies
    refine ⟨session, same, ?_⟩
    rw [← equal, List.getElem?_append_left (List.getElem?_eq_some_iff.mp found).1, found]
  kept := sends.kept

/-- A handler that has ended sends the answer of its program. -/
theorem Logins.answer_sends {parser : Json} {state : OauthState} (html : state.handlebars.Html)
    {self : Logins} {handler : Nat} {params : Oauth2RedirectParams}
    {trace : List (DiscordCall × DiscordReply)}
    {program : Program DiscordCall (fun _ => DiscordReply)
      (Except StatusCode (List Char) × Option Session)}
    (leaves : Program.Leaves (state.handleOauthRedirect parser params) trace program)
    (kept : ∀ exchange ∈ trace, ⟨handler, exchange.1, exchange.2⟩ ∈ self.replies)
    {loaded : Session} {answer : RedirectAnswer}
    (answers : self.answer loaded program = some answer) :
    (self.settle handler loaded program).Sends parser state loaded answer := by
  have grows := self.settle_grows handler loaded program
  cases program with
  | call call next => cases answers
  | pure result =>
      cases handleOauthRedirect_redirected leaves with
      | refused =>
          cases answers
          exact ⟨by simp [RedirectAnswer.message], by simp, by simp⟩
      | error text =>
          rw [← Option.some.inj answers]
          exact ⟨fun user posts => posted_oauthError html posts, by simp, by simp⟩
      | @login code user exchanged =>
          have vouches := exchanged.vouches kept
          rw [← Option.some.inj answers]
          refine ⟨?_, ?_, ?_⟩
          · exact fun message posts => ⟨user, vouches.mono grows.replies, rfl, posts⟩
          · intro index new
            simp only at new
            split at new
            · cases new
            · rename_i changed
              cases new
              refine ⟨user.session, rfl, ?_⟩
              simp [Logins.settle, Logins.respond, changed]
          · intro old session member
            cases member
            simp only at old
            split at old
            · rename_i same
              exact same.symm
            · cases old

/-- The cookie holds the last login, the only window under way has loaded it, and every message and
every request shows the user of its login. -/
structure Browser.Sound (parser : Json) (state : OauthState) (site : Site) (browser : Browser) :
    Prop where
  logins : browser.logins.Sound parser state
  valid : ∀ index, browser.cookie = some index → index < browser.logins.cookies.length
  loaded : browser.logins.load browser.cookie = browser.lastLogin
  alone : ∀ first second, browser.tabs first ≠ none → browser.tabs second ≠ none → first = second
  waiting : ∀ handler window query, browser.tabs handler = some ⟨window, query, none⟩ →
    ∃ program, browser.logins.redirects handler = some ⟨browser.lastLogin, program⟩
  answered : ∀ handler window query answer,
    browser.tabs handler = some ⟨window, query, some answer⟩ →
      browser.logins.Sends parser state browser.lastLogin answer
  inbox : ∀ delivery ∈ browser.inbox, delivery.event.origin ++ "/" = site.issuerUrl →
    ∀ user query, delivery.event.data = .success user query →
      browser.logins.Shows parser state user delivery.session
  requests : ∀ request ∈ browser.requests,
    browser.logins.Shows parser state request.user request.session

section Steps

variable {parser : Json} {state : OauthState} {site : Site} {browser : Browser}

theorem Browser.Sound.start : Browser.start.Sound parser state site where
  logins := Logins.start_sound parser state
  valid := by simp [Browser.start]
  loaded := rfl
  alone := by simp [Browser.start]
  waiting := by simp [Browser.start]
  answered := by simp [Browser.start]
  inbox := by simp [Browser.start]
  requests := by simp [Browser.start]

/-- The service and its windows may move when the new windows are in order. -/
theorem Browser.Sound.serve (sound : browser.Sound parser state site) {logins : Logins}
    (grows : browser.logins.Grows logins) (kept : logins.Sound parser state)
    {tabs : Nat → Option Tab}
    (alone : ∀ first second, tabs first ≠ none → tabs second ≠ none → first = second)
    (waiting : ∀ handler window query, tabs handler = some ⟨window, query, none⟩ →
      ∃ program, logins.redirects handler = some ⟨browser.lastLogin, program⟩)
    (answered : ∀ handler window query answer,
      tabs handler = some ⟨window, query, some answer⟩ →
        logins.Sends parser state browser.lastLogin answer) :
    ({ browser with logins := logins, tabs := tabs } : Browser).Sound parser state site where
  logins := kept
  valid index some := (sound.valid index some).trans_le grows.cookies.length_le
  loaded := (grows.load sound.valid).trans sound.loaded
  alone := alone
  waiting := waiting
  answered := answered
  inbox delivery member origin user query data :=
    grows.shows (sound.inbox delivery member origin user query data)
  requests request member := grows.shows (sound.requests request member)

/-- The only window under way moves with its handler. -/
theorem Browser.Sound.settle (sound : browser.Sound parser state site)
    (html : state.handlebars.Html) {handler window : Nat} {query : Option String}
    {logins : Logins} (grows : browser.logins.Grows logins)
    {params : Oauth2RedirectParams} {trace : List (DiscordCall × DiscordReply)}
    {program : Program DiscordCall (fun _ => DiscordReply)
      (Except StatusCode (List Char) × Option Session)}
    (settled : (logins.settle handler browser.lastLogin program).Sound parser state)
    (leaves : Program.Leaves (state.handleOauthRedirect parser params) trace program)
    (kept : ∀ exchange ∈ trace, ⟨handler, exchange.1, exchange.2⟩ ∈ logins.replies)
    (only : ∀ other, other ≠ handler → browser.tabs other = none) :
    ({ browser with
      logins := logins.settle handler browser.lastLogin program
      tabs := Function.update browser.tabs handler
        (some ⟨window, query, logins.answer browser.lastLogin program⟩) } : Browser).Sound
      parser state site := by
  have more := logins.settle_grows handler browser.lastLogin program
  have all : browser.logins.Grows (logins.settle handler browser.lastLogin program) :=
    ⟨grows.cookies.trans more.cookies, fun sent member =>
      more.replies sent (grows.replies sent member)⟩
  have own : ∀ other tab, Function.update browser.tabs handler
      (some ⟨window, query, logins.answer browser.lastLogin program⟩) other = some tab →
      other = handler ∧ tab.answer = logins.answer browser.lastLogin program := by
    intro other tab present
    by_cases same : other = handler
    · subst same
      rw [Function.update_self] at present
      exact ⟨rfl, (congrArg Tab.answer (Option.some.inj present)).symm⟩
    · rw [Function.update_of_ne same, only other same] at present
      cases present
  refine sound.serve all settled ?_ ?_ ?_
  · intro first second one two
    obtain ⟨tab, one⟩ := Option.ne_none_iff_exists'.mp one
    obtain ⟨other, two⟩ := Option.ne_none_iff_exists'.mp two
    exact (own first tab one).1.trans (own second other two).1.symm
  · intro other window query waits
    obtain ⟨rfl, unanswered⟩ := own other _ waits
    exact ⟨program, Logins.settle_unanswered unanswered.symm⟩
  · intro other window query answer got
    obtain ⟨rfl, answers⟩ := own other _ got
    exact Logins.answer_sends html leaves kept answers.symm

/-- A window that is under way is the only one. -/
theorem Browser.Sound.only (sound : browser.Sound parser state site) {handler : Nat} {tab : Tab}
    (present : browser.tabs handler = some tab) :
    ∀ other, other ≠ handler → browser.tabs other = none := by
  intro other different
  by_contra there
  exact different (sound.alone other handler there (by simp [present]))

/-- A request at the service that is not for the window under way leaves it waiting. -/
theorem Browser.Sound.undisturbed (sound : browser.Sound parser state site) (request : Request)
    (served : browser.served request = browser.tabs)
    (others : ∀ handler redirect, browser.logins.redirects handler = some redirect →
      (∃ window query, browser.tabs handler = some ⟨window, query, none⟩) →
        (browser.logins.step parser state request).1.redirects handler = some redirect) :
    (browser.step parser state site (.service request)).Sound parser state site := by
  have grows := browser.logins.step_grows parser state request
  change ({ browser with
    logins := (browser.logins.step parser state request).1
    tabs := browser.served request } : Browser).Sound parser state site
  rw [served]
  refine sound.serve grows (sound.logins.step request) sound.alone ?_ ?_
  · intro handler window query waits
    obtain ⟨program, runs⟩ := sound.waiting handler window query waits
    exact ⟨program, others handler _ runs ⟨window, query, waits⟩⟩
  · intro handler window query answer got
    exact grows.sends (sound.answered handler window query answer got)

/-- The reply to a window under way goes to its handler. -/
theorem Browser.Sound.reply (sound : browser.Sound parser state site)
    (html : state.handlebars.Html) {handler window : Nat} {query : Option String}
    (waits : browser.tabs handler = some ⟨window, query, none⟩) (reply : DiscordReply) :
    (browser.step parser state site (.service (.reply handler reply))).Sound parser state site := by
  obtain ⟨program, runs⟩ := sound.waiting handler window query waits
  cases program with
  | pure value =>
      refine sound.undisturbed _ ?_ ?_
      · simp only [Browser.served, waits, runs]
      · intro other redirect running _
        simpa only [Logins.step, runs] using running
  | call call next =>
      obtain ⟨params, trace, leaves, kept⟩ := sound.logins.redirects handler _ runs
      have stepped : (browser.logins.step parser state (.reply handler reply)).1 =
          (browser.logins.record ⟨handler, call, reply⟩).settle handler browser.lastLogin
            (next reply) := by
        simp only [Logins.step, runs]
      have settled := sound.logins.step (.reply handler reply)
      have grows : browser.logins.Grows (browser.logins.record ⟨handler, call, reply⟩) :=
        ⟨List.prefix_rfl, fun _ member => List.mem_append_left _ member⟩
      rw [stepped] at settled
      simp only [Browser.step, stepped, Browser.served, waits, runs]
      refine sound.settle html grows settled (leaves.snoc reply) ?_ (sound.only waits)
      intro exchange listed
      rcases List.mem_append.mp listed with before | now
      · exact List.mem_append_left _ (kept exchange before)
      · cases List.mem_singleton.mp now
        exact List.mem_append_right _ (List.mem_singleton.mpr rfl)

/-- A window whose handler has timed out is no longer under way. -/
theorem Browser.Sound.timeout (sound : browser.Sound parser state site) {handler window : Nat}
    {query : Option String} (waits : browser.tabs handler = some ⟨window, query, none⟩) :
    (browser.step parser state site (.service (.timeout handler))).Sound parser state site := by
  have only := sound.only waits
  have gone : Function.update browser.tabs handler none = fun _ => none := by
    funext other
    by_cases same : other = handler
    · rw [same, Function.update_self]
    · rw [Function.update_of_ne same, only other same]
  simp only [Browser.step, Browser.served, waits, gone]
  exact sound.serve (browser.logins.step_grows parser state _) (sound.logins.step _) (by simp)
    (by simp) (by simp)

/-- Every request at the service keeps the browser sound. -/
theorem Browser.Sound.service (sound : browser.Sound parser state site)
    (html : state.handlebars.Html) (request : Request) :
    (browser.step parser state site (.service request)).Sound parser state site := by
  cases request with
  | redirect handler cookie params =>
      refine sound.undisturbed _ rfl ?_
      intro other redirect running _
      simp only [Logins.step]
      split
      · rename_i free
        have different : other ≠ handler := by
          rintro rfl
          rw [free] at running
          cases running
        rwa [Logins.settle_redirects _ different]
      · exact running
  | credential cookie credential => exact sound.undisturbed _ rfl fun _ _ running _ => running
  | reply handler reply =>
      by_cases under : ∃ window query, browser.tabs handler = some ⟨window, query, none⟩
      · obtain ⟨window, query, waits⟩ := under
        exact sound.reply html waits reply
      · refine sound.undisturbed _ ?_ ?_
        · simp only [Browser.served]
          split
          · rename_i window query _ _ _ waits _
            exact absurd ⟨window, query, waits⟩ under
          · rfl
        · intro other redirect running waits
          have different : other ≠ handler := by
            rintro rfl
            exact under waits
          simp only [Logins.step]
          split
          · rwa [Logins.settle_redirects _ different]
          · exact running
  | timeout handler =>
      by_cases under : ∃ window query, browser.tabs handler = some ⟨window, query, none⟩
      · obtain ⟨window, query, waits⟩ := under
        exact sound.timeout waits
      · refine sound.undisturbed _ ?_ ?_
        · simp only [Browser.served]
          split
          · rename_i window query waits
            exact absurd ⟨window, query, waits⟩ under
          · rfl
        · intro other redirect running waits
          have different : other ≠ handler := by
            rintro rfl
            exact under waits
          exact (Function.update_of_ne different _ _).trans running

/-- The only login under way starts with the session of the cookie. -/
theorem Browser.Sound.redirect (sound : browser.Sound parser state site)
    (html : state.handlebars.Html) (alone : ∀ other, browser.tabs other = none)
    (handler window : Nat) (query : Option String) (params : Oauth2RedirectParams) :
    (browser.step parser state site (.redirect handler window query params)).Sound parser state
      site := by
  have settled := sound.logins.step (.redirect handler browser.cookie params)
  simp only [Browser.step]
  split
  · exact sound
  · rename_i free
    simp only [Logins.step, free, sound.loaded] at settled ⊢
    exact sound.settle html ⟨List.prefix_rfl, fun _ => id⟩ settled (.start _) (by simp)
      fun other _ => alone other

/-- The cookie of an answer holds the login of its page. -/
theorem Logins.Sends.load {logins : Logins} {loaded : Session} {answer : RedirectAnswer}
    (sends : logins.Sends parser state loaded answer) {cookie : Option Nat}
    (same : logins.load cookie = loaded) :
    logins.load (answer.cookie.or cookie) = answer.session.getD loaded := by
  cases new : answer.cookie with
  | some index =>
      obtain ⟨session, has, found⟩ := sends.stored index new
      simp [Logins.load, has, found]
  | none =>
      cases has : answer.session with
      | none => exact same
      | some session => exact same.trans (sends.kept new session has)

/-- What an answer posts shows the user of its session. -/
theorem RedirectAnswer.deliveries_shows {logins : Logins} {loaded : Session}
    {answer : RedirectAnswer} (sends : logins.Sends parser state loaded answer) {window : Nat}
    {query : Option String} :
    ∀ delivery ∈ answer.deliveries site state.toAppState window query, ∀ user posted,
      delivery.event.data = .success user posted →
        logins.Shows parser state user delivery.session := by
  intro delivery member user given data
  obtain ⟨message, posts, listed⟩ := List.mem_flatMap.mp member
  obtain ⟨_, -, rfl⟩ := List.mem_map.mp listed
  cases data
  exact sends.shows user (Option.mem_toList.mp posts)

/-- An answer that arrives sets the cookie and posts the user of its login. -/
theorem Browser.Sound.arrive (sound : browser.Sound parser state site) (handler : Nat) :
    (browser.step parser state site (.arrive handler)).Sound parser state site := by
  simp only [Browser.step]
  split
  · rename_i window query answer got
    have sends := sound.answered handler window query answer got
    have only := sound.only got
    have gone : ∀ other, Function.update browser.tabs handler none other = none := by
      intro other
      by_cases same : other = handler
      · rw [same, Function.update_self]
      · rw [Function.update_of_ne same, only other same]
    exact {
      logins := sound.logins
      valid := by
        intro index some
        rcases Option.or_eq_some_iff.mp some with new | ⟨-, old⟩
        · obtain ⟨session, -, found⟩ := sends.stored index new
          exact (List.getElem?_eq_some_iff.mp found).1
        · exact sound.valid index old
      loaded := sends.load sound.loaded
      alone := fun first _ there => absurd (gone first) there
      waiting := fun other _ _ waits => by
        cases (gone other).symm.trans waits
      answered := fun other _ _ _ got => by
        cases (gone other).symm.trans got
      inbox := fun delivery member origin user given data => by
        rcases List.mem_append.mp member with before | now
        · exact sound.inbox delivery before origin user given data
        · exact RedirectAnswer.deliveries_shows sends delivery now user given data
      requests := sound.requests }
  · exact sound

/-- A message that passes the checks comes from the origin of the page and names a user. -/
theorem App.onDiscordWindowMessage_some {self : App} {event : MessageEvent} {user : Message}
    (passes : self.onDiscordWindowMessage site event = some user) :
    event.origin ++ "/" = site.issuerUrl ∧ ∃ given, event.data = .success user given := by
  unfold App.onDiscordWindowMessage at passes
  split at passes
  · cases passes
  · split at passes
    · cases passes
    · split at passes
      · cases passes
      · rename_i origin
        split at passes
        · cases passes
        · split at passes
          · cases passes
          · rename_i given data
            cases passes
            exact ⟨not_not.mp origin, given, data⟩

/-- A message that passes the checks requests a credential for its user. -/
theorem Browser.Sound.message (sound : browser.Sound parser state site) :
    (browser.step parser state site .message).Sound parser state site := by
  simp only [Browser.step]
  split
  · exact sound
  · rename_i delivery rest pending
    have first : delivery ∈ browser.inbox := by
      rw [pending]
      exact List.mem_cons_self
    refine { sound with inbox := ?_, requests := ?_ }
    · intro other member
      apply sound.inbox
      rw [pending]
      exact List.mem_cons_of_mem _ member
    · intro request member
      split at member
      · exact sound.requests request member
      · rename_i user passes
        obtain ⟨origin, given, data⟩ := App.onDiscordWindowMessage_some passes
        rcases List.mem_append.mp member with before | now
        · exact sound.requests request before
        · cases List.mem_singleton.mp now
          exact sound.inbox delivery first origin user given data

/-- A window that is closed leaves the others under way. -/
theorem Browser.Sound.close (sound : browser.Sound parser state site) (handler : Nat) :
    (browser.step parser state site (.close handler)).Sound parser state site := by
  have kept : ∀ other tab, Function.update browser.tabs handler none other = some tab →
      browser.tabs other = some tab := by
    intro other tab there
    by_cases same : other = handler
    · rw [same, Function.update_self] at there
      cases there
    · rwa [Function.update_of_ne same] at there
  refine { sound with alone := ?_, waiting := ?_, answered := ?_ }
  · intro first second one two
    obtain ⟨tab, one⟩ := Option.ne_none_iff_exists'.mp one
    obtain ⟨other, two⟩ := Option.ne_none_iff_exists'.mp two
    exact sound.alone first second (by simp [kept first tab one]) (by simp [kept second other two])
  · exact fun other window query waits => sound.waiting other window query (kept other _ waits)
  · exact fun other window query answer got =>
      sound.answered other window query answer (kept other _ got)

/-- Every step that the browser admits keeps it sound. -/
theorem Browser.Sound.step (sound : browser.Sound parser state site)
    (html : state.handlebars.Html) {event : BrowserEvent} (admits : browser.Admits site event) :
    (browser.step parser state site event).Sound parser state site := by
  cases admits with
  | openDiscordVerification nonce window => exact { sound with }
  | redirect alone => exact sound.redirect html alone _ _ _ _
  | service request => exact sound.service html request
  | arrive handler => exact sound.arrive handler
  | close handler => exact sound.close handler
  | forget alone =>
      refine { sound with valid := ?_, loaded := ?_, waiting := ?_, answered := ?_ }
      · simp [Browser.step]
      · rfl
      · simp [Browser.step, alone]
      · simp [Browser.step, alone]
  | foreign elsewhere =>
      refine { sound with inbox := ?_ }
      intro delivery member origin user given data
      rcases List.mem_append.mp member with before | now
      · exact sound.inbox delivery before origin user given data
      · cases List.mem_singleton.mp now
        exact absurd origin elsewhere
  | message => exact sound.message

end Steps

/-- The job of a session is the one of its two values. -/
theorem issueDiscordCredential_firstCall {session : Session} {credential : CredentialInfo}
    {userId username : String} :
    (issueDiscordCredential session credential).firstCall =
        some ⟨credential, userId, username⟩ ↔ session = ⟨some userId, some username⟩ := by
  obtain ⟨id, name⟩ := session
  cases id with
  | none => simp [issueDiscordCredential, Program.firstCall]
  | some id =>
      cases name with
      | none => simp [issueDiscordCredential, Program.firstCall]
      | some name => simp [issueDiscordCredential, sendTx, Program.firstCall]

/-- A clean user is shown as it is. -/
theorem posted_clean {state : AppState} (html : state.handlebars.Html) {user : User}
    {message : Message} (posts : posted (makeOauthRedirectResponse state user).2 = some message)
    (id : state.handlebars.Clean user.id.toList)
    (username : state.handlebars.Clean user.storedUsername.toList) :
    message = ⟨encode user.id.toList, encode user.storedUsername.toList⟩ := by
  simp only [makeOauthRedirectResponse, posted_oauth html, (literal_eq_iff html _).mpr id,
    (literal_eq_iff html _).mpr username, Option.bind_some, Option.bind_eq_some_iff,
    Option.some.injEq] at posts
  obtain ⟨_, -, _, -, rfl⟩ := posts
  rfl

/-- The service hands the request on for the last login. The request shows a user whom Discord has
returned for a code, or the empty account of an empty error; the service takes exactly the shown
user when the last login is the one of the request, and a clean user is shown as it is. -/
structure Browser.HandsOn (parser : Json) (state : OauthState) (browser : Browser)
    (request : CredentialRequest) (credential : CredentialInfo) : Prop where
  lastLogin : browser.job parser state credential =
    (issueDiscordCredential browser.lastLogin credential).firstCall
  shown : request = ⟨⟨[], []⟩, none⟩ ∨
    ∃ user : User, browser.logins.Vouches parser state user ∧
      request.session = some user.session ∧
      (browser.job parser state credential =
          some ⟨credential, user.id, user.storedUsername⟩ ↔ browser.lastLogin = user.session) ∧
      (state.handlebars.Clean user.id.toList → state.handlebars.Clean user.storedUsername.toList →
        request.user = ⟨encode user.id.toList, encode user.storedUsername.toList⟩)

/-- In every run of a browser with at most one login under way, and for every request of its page,
the service takes the user of the last login, and this is the user that the page has shown exactly
when no other user has logged in since. -/
theorem discordApp_shownAccount (parser : Json) (state : OauthState)
    (html : state.handlebars.Html) (site : Site) {events : List BrowserEvent} {browser : Browser}
    (run : Execution (Browser.Step parser state site) .start events browser)
    {request : CredentialRequest} (member : request ∈ browser.requests)
    (credential : CredentialInfo) : browser.HandsOn parser state request credential := by
  have sound : browser.Sound parser state site := by
    refine run.invariant ?_ Browser.Sound.start
    rintro first event _ before ⟨admits⟩
    exact before.step html admits
  have handed : browser.job parser state credential =
      (issueDiscordCredential browser.lastLogin credential).firstCall := by
    rw [← sound.loaded]
    rfl
  refine ⟨handed, ?_⟩
  have shows := sound.requests request member
  obtain ⟨shown, session⟩ := request
  cases session with
  | none =>
      have empty : shown = ⟨[], []⟩ := shows
      exact .inl (by rw [empty])
  | some session =>
      obtain ⟨user, vouches, rfl, posts⟩ := shows
      refine .inr ⟨user, vouches, rfl, ?_, posted_clean html posts⟩
      rw [handed]
      exact issueDiscordCredential_firstCall

/-- The login of the window that was opened last becomes a request. -/
theorem Browser.requests_of_login {parser : Json} {state : OauthState} {site : Site}
    {browser : Browser} {handler window : Nat} {nonce domain : String} {answer : RedirectAnswer}
    {user : Message} (got : browser.tabs handler = some ⟨window, some nonce, some answer⟩)
    (posts : answer.message = some user)
    (opener : [state.dappDomain, state.verifierDappDomain].filter site.isOpener = [domain])
    (origin : site.origin ++ "/" = site.issuerUrl) (app : browser.app = ⟨some nonce, some window⟩)
    (empty : browser.inbox = []) :
    ((browser.step parser state site (.arrive handler)).step parser state site .message).requests =
      browser.requests ++ [⟨user, answer.session⟩] := by
  have passes : browser.app.onDiscordWindowMessage site
      ⟨window, site.origin, .success user (some nonce)⟩ = some user := by
    simp [App.onDiscordWindowMessage, app, origin, App.expects, DiscordWindowMessage.state]
  simp only [Browser.step, got, Browser.show, RedirectAnswer.deliveries, posts, opener, empty,
    Option.toList_some, List.flatMap_cons, List.flatMap_nil, List.map_cons, List.map_nil,
    List.nil_append, List.append_nil, passes]

/-- Discord returns one user for every code. -/
def sampleJson : Json where
  accessToken _ := .ok ⟨"token", "Bearer", "identify"⟩
  user _ := .ok ⟨"7", "ann", "0"⟩

def sampleOauth : OauthState := ⟨sampleState, "client", "secret", "https://a.b/discord-oauth2"⟩

/-- The page of the sample issuer is at its own domain. -/
def sampleSite : Site :=
  ⟨"https://a.b" ++ "/", "https://a.b", fun domain => domain = sampleState.dappDomain⟩

def sampleUser : User := ⟨"7", "ann", "0"⟩

def sampleStep (browser : Browser) (event : BrowserEvent) : Browser :=
  browser.step sampleJson sampleOauth sampleSite event

/-- A window is opened and redirected, and its handler gets both replies. -/
def sampleEvents : List BrowserEvent :=
  [.openDiscordVerification "state" (some 1), .redirect 0 1 (some "state") ⟨some "code", none⟩,
    .service (.reply 0 (.ok ⟨200, .ok ""⟩)), .service (.reply 0 (.ok ⟨200, .ok ""⟩))]

def sampleRedirected : Browser :=
  sampleStep (sampleStep .start (.openDiscordVerification "state" (some 1)))
    (.redirect 0 1 (some "state") ⟨some "code", none⟩)

def sampleIdentified : Browser :=
  sampleStep (sampleStep sampleRedirected (.service (.reply 0 (.ok ⟨200, .ok ""⟩))))
    (.service (.reply 0 (.ok ⟨200, .ok ""⟩)))

/-- The page of the sample issuer requests a credential. -/
def sampleAsked : Browser := sampleStep (sampleStep sampleIdentified (.arrive 0)) .message

theorem sampleApp_run :
    Execution (Browser.Step sampleJson sampleOauth sampleSite) .start
      (sampleEvents ++ [.arrive 0, .message]) sampleAsked := by
  have identified : Execution (Browser.Step sampleJson sampleOauth sampleSite) .start
      sampleEvents sampleIdentified :=
    .next (.admitted (.openDiscordVerification _ _)) (.next (.admitted (.redirect fun _ => rfl))
      (.next (.admitted (.service _)) (.single (.admitted (.service _)))))
  exact identified.append (.next (.admitted (.arrive 0)) (.single (.admitted .message)))

def sampleAnswer : RedirectAnswer :=
  ⟨.ok (makeOauthRedirectResponse sampleState sampleUser).2, some sampleUser.session, some 0⟩

/-- The page of the sample login can be read. -/
theorem sampleAnswer_posts :
    sampleAnswer.message = some ⟨encode "7".toList, encode "ann".toList⟩ :=
  (posted_iff escapeHtml_html ⟨"7", "ann", "https://a.b/", "https://c.d"⟩).mpr (by decide)

/-- The handler of the sample login has ended. -/
theorem sampleIdentified_tabs :
    sampleIdentified.tabs 0 = some ⟨1, some "state", some sampleAnswer⟩ := by
  have token : readToken sampleJson (.ok ⟨200, .ok ""⟩) = .ok "token" := by
    simp [readToken, json, checkToken, sampleJson, Response.isSuccess, bind, Except.bind,
      Except.mapError]
  have user : readUser sampleJson (.ok ⟨200, .ok ""⟩) = .ok sampleUser := by
    simp [readUser, json, sampleJson, Response.isSuccess, Except.mapError, sampleUser]
  simp only [sampleIdentified, sampleRedirected, sampleStep, Browser.step, Browser.start,
    Browser.served, Logins.step, Logins.start, Logins.settle, Logins.answer, Program.call_bind,
    OauthState.handleOauthRedirect, OauthState.getUser, token, user, Logins.record, Logins.load,
    Function.update_self, Option.bind_none, Option.getD_none, Program.pure_bind]
  rfl

/-- The page of the sample issuer requests a credential for the sample user. -/
theorem sampleAsked_requests :
    ⟨⟨encode "7".toList, encode "ann".toList⟩, sampleAnswer.session⟩ ∈ sampleAsked.requests := by
  have opener : [sampleOauth.dappDomain, sampleOauth.verifierDappDomain].filter
      sampleSite.isOpener = [sampleState.dappDomain] := by decide
  have app : sampleIdentified.app = ⟨some "state", some 1⟩ := rfl
  have empty : sampleIdentified.inbox = [] := rfl
  unfold sampleAsked sampleStep
  rw [Browser.requests_of_login sampleIdentified_tabs sampleAnswer_posts opener rfl app empty]
  exact List.mem_append_right _ (List.mem_singleton.mpr rfl)

/-- The sample request is handed on as the theorem says. -/
theorem discordApp_shownAccount_sample :
    sampleAsked.HandsOn sampleJson sampleOauth
      ⟨⟨encode "7".toList, encode "ann".toList⟩, sampleAnswer.session⟩ sampleCredential :=
  discordApp_shownAccount sampleJson sampleOauth escapeHtml_html sampleSite sampleApp_run
    sampleAsked_requests sampleCredential

end Web3Id.SomeIssuer.Discord
