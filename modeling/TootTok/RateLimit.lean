import Mathlib.Data.List.Pairwise
import TootTok.Effects.Keyed
import TootTok.Sanitize

/-!
# Rate limits

The requests of an address are counted in windows of a minute. A window opens with the
first request after the last one has expired, so that its place in time depends on the
history.
-/

namespace TootTok
namespace RateLimit

open Effects

/-- Instants and durations are in nanoseconds. -/
def second : Nat := 1000000000

structure Window where
  start : Nat
  count : Nat
deriving DecidableEq

structure RateLimiter (Ip : Type) where
  limit : Nat
  window : Nat
  trustedProxies : List Ip

/-- The windows of the addresses seen so far. -/
abbrev Buckets (Ip : Type) : Type := Ip → Option Window

variable {Ip : Type}

namespace RateLimiter

def new (limitPerMin : Nat) : RateLimiter Ip :=
  { limit := limitPerMin, window := 60 * second, trustedProxies := [] }

def auth : RateLimiter Ip := new 10

def upload : RateLimiter Ip := new 6

def accounts : RateLimiter Ip := new 60

def admin : RateLimiter Ip := new 30

def general : RateLimiter Ip := new 120

def withTrustedProxies (limiter : RateLimiter Ip) (proxies : List Ip) : RateLimiter Ip :=
  { limiter with trustedProxies := proxies }

variable (limiter : RateLimiter Ip)

/-- The bucket that a request is counted in. Differences of instants saturate. -/
def currentBucket (now : Nat) (entry : Option Window) : Window :=
  let bucket := entry.getD ⟨now, 0⟩
  if limiter.window ≤ now - bucket.start then ⟨now, 0⟩ else bucket

/-- The answer to a request, and the bucket after it. -/
def checkBucket (now : Nat) (entry : Option Window) : Except Nat Unit × Window :=
  let bucket := limiter.currentBucket now entry
  if limiter.limit ≤ bucket.count then
    let retry := (limiter.window - (now - bucket.start)) / second
    (.error (max retry 1), bucket)
  else (.ok (), { bucket with count := bucket.count + 1 })

variable [DecidableEq Ip]

/-- Record a hit. A rejection gives the seconds after which to retry. -/
def check (ip : Ip) (now : Nat) (buckets : Buckets Ip) : Except Nat Unit × Buckets Ip :=
  let (result, bucket) := limiter.checkBucket now (buckets ip)
  (result, Function.update buckets ip (some bucket))

end RateLimiter

/-! ## Requests -/

/-- A request that has been answered, with the start of the window that it fell in. -/
structure Served where
  time : Nat
  result : Except Nat Unit
  window : Option Nat

def Served.admitted (served : Served) : Bool := served.result.toBool

namespace RateLimiter

variable (limiter : RateLimiter Ip)

/-- The requests of one address. -/
def serveOne (now : Nat) (entry : Option Window) : Served × Option Window :=
  let (result, bucket) := limiter.checkBucket now entry
  (⟨now, result, some bucket.start⟩, some bucket)

variable [DecidableEq Ip]

def serve (request : Ip × Nat) (buckets : Buckets Ip) : (Ip × Served) × Buckets Ip :=
  let (result, after) := limiter.check request.1 request.2 buckets
  ((request.1, ⟨request.2, result, (after request.1).map Window.start⟩), after)

/-- What a limiter answers from its start on. -/
def log (requests : List (Ip × Nat)) : List (Ip × Served) :=
  answers limiter.serve (fun _ => none) requests

def bucketsAfter (requests : List (Ip × Nat)) : Buckets Ip :=
  settled limiter.serve (fun _ => none) requests

/-- The limiter is a table of buckets that do not see each other. -/
theorem serve_eq_keyed : limiter.serve = keyed limiter.serveOne := by
  funext request buckets
  simp [serve, check, keyed, serveOne]

end RateLimiter

/-! ## One bucket -/

section OneBucket

variable {limiter : RateLimiter Ip} {now : Nat} {entry : Option Window}

open RateLimiter

/-- Either a window opens, the last one having expired, or the last one goes on. -/
theorem currentBucket_cases (limiter : RateLimiter Ip) (now : Nat) (entry : Option Window) :
    (limiter.currentBucket now entry = ⟨now, 0⟩ ∧
      ∀ last ∈ entry, limiter.window ≤ now - last.start) ∨
    (entry = some (limiter.currentBucket now entry) ∧
      now - (limiter.currentBucket now entry).start < limiter.window) := by
  cases entry with
  | none =>
      left
      simp [currentBucket]
  | some last =>
      by_cases expired : limiter.window ≤ now - last.start
      · left
        simp [currentBucket, expired]
      · right
        simp only [currentBucket, Option.getD_some, if_neg expired]
        exact ⟨trivial, by omega⟩

theorem checkBucket_start :
    (limiter.checkBucket now entry).2.start = (limiter.currentBucket now entry).start := by
  unfold checkBucket
  dsimp only
  split <;> rfl

/-- Within the limit the request is counted, otherwise the bucket stays as it is. -/
theorem checkBucket_cases (limiter : RateLimiter Ip) (now : Nat) (entry : Option Window) :
    (limiter.limit ≤ (limiter.currentBucket now entry).count ∧
      ∃ retry, limiter.checkBucket now entry =
        (.error retry, limiter.currentBucket now entry)) ∨
    ((limiter.currentBucket now entry).count < limiter.limit ∧
      limiter.checkBucket now entry =
        (.ok (), { limiter.currentBucket now entry with
          count := (limiter.currentBucket now entry).count + 1 })) := by
  unfold checkBucket
  dsimp only
  by_cases full : limiter.limit ≤ (limiter.currentBucket now entry).count
  · left
    rw [if_pos full]
    exact ⟨full, _, rfl⟩
  · right
    rw [if_neg full]
    exact ⟨by omega, rfl⟩

/-- Where the window of a request is. -/
theorem currentBucket_place (positive : 0 < limiter.window)
    (notBefore : ∀ last ∈ entry, last.start ≤ now) :
    (limiter.currentBucket now entry).start ≤ now ∧
      now < (limiter.currentBucket now entry).start + limiter.window ∧
      ∀ last ∈ entry, (limiter.currentBucket now entry).start = last.start ∨
        last.start + limiter.window ≤ (limiter.currentBucket now entry).start := by
  rcases currentBucket_cases limiter now entry with ⟨opened, expired⟩ | ⟨goesOn, within⟩
  · rw [opened]
    refine ⟨Nat.le_refl now, Nat.lt_add_of_pos_right positive, fun last isLast => .inr ?_⟩
    have before := notBefore last isLast
    have ended := expired last isLast
    dsimp only
    omega
  · have before := notBefore _ goesOn
    refine ⟨before, by omega, fun last isLast => .inl ?_⟩
    rw [Option.mem_def, goesOn] at isLast
    exact congrArg Window.start (Option.some.inj isLast)

/-- The requests of an address fall in windows that are at least the length of a window apart,
each one in the window that it is counted in. -/
theorem served_window (positive : 0 < limiter.window) {times : List Nat}
    (ordered : times.Pairwise (· ≤ ·))
    (later : ∀ last ∈ entry, ∀ time ∈ times, last.start ≤ time)
    {served : Served} (member : served ∈ answers limiter.serveOne entry times) :
    ∃ start, served.window = some start ∧ start ≤ served.time ∧
      served.time < start + limiter.window ∧
      ∀ last ∈ entry, start = last.start ∨ last.start + limiter.window ≤ start := by
  induction times generalizing entry with
  | nil => cases member
  | cons now times inductionHypothesis =>
      obtain ⟨first, ordered⟩ := List.pairwise_cons.mp ordered
      have notBefore : ∀ last ∈ entry, last.start ≤ now :=
        fun last isLast => later last isLast now List.mem_cons_self
      have here := currentBucket_place positive notBefore
      rw [answers_cons, List.mem_cons] at member
      rcases member with rfl | member
      · refine ⟨(limiter.currentBucket now entry).start, ?_, here⟩
        exact congrArg some checkBucket_start
      · have next : ∀ last ∈ (limiter.serveOne now entry).2,
            last.start = (limiter.currentBucket now entry).start := by
          rintro last ⟨rfl⟩
          exact checkBucket_start
        obtain ⟨start, isWindow, begun, within, apart⟩ := inductionHypothesis ordered
          (fun last isLast time isTime =>
            next last isLast ▸ Nat.le_trans here.1 (first time isTime)) member
        refine ⟨start, isWindow, begun, within, fun last isLast => ?_⟩
        have fromHere := apart _ rfl
        rw [next _ rfl] at fromHere
        have before := here.2.2 last isLast
        omega

/-- What a bucket has counted of a window. -/
def counted (entry : Option Window) (start : Nat) : Nat :=
  match entry with
  | none => 0
  | some window => if window.start = start then window.count else 0

/-- The requests admitted in one window. -/
def admittedIn (start : Nat) (log : List Served) : Nat :=
  log.countP fun served => served.admitted && served.window = some start

theorem admittedIn_cons (start : Nat) (served : Served) (log : List Served) :
    admittedIn start (served :: log) =
      admittedIn start log + admittedIn start [served] := by
  simp [admittedIn, List.countP_cons]

/-- A request adds to its bucket what it adds to the window. -/
theorem counted_serveOne (start : Nat) :
    admittedIn start [(limiter.serveOne now entry).1] +
        counted (some (limiter.currentBucket now entry)) start =
      counted (limiter.serveOne now entry).2 start := by
  rcases checkBucket_cases limiter now entry with ⟨-, retry, rejects⟩ | ⟨-, admits⟩
  · simp [serveOne, rejects, admittedIn, Served.admitted, Except.toBool]
  · simp only [serveOne, admits, admittedIn, Served.admitted, Except.toBool, counted,
      List.countP_singleton, Bool.true_and, decide_eq_true_eq, Option.some.injEq]
    split <;> omega

theorem counted_le {most : Nat} (fits : ∀ last ∈ entry, last.count ≤ most) (start : Nat) :
    counted entry start ≤ most := by
  unfold counted
  split
  · exact Nat.zero_le _
  · split
    · exact fits _ rfl
    · exact Nat.zero_le _

/-- A bucket is in the window that its last request fell in, and within the limit. -/
theorem serveOne_bucket (fits : ∀ last ∈ entry, last.count ≤ limiter.limit) :
    ∀ last ∈ (limiter.serveOne now entry).2,
      last.start = (limiter.currentBucket now entry).start ∧ last.count ≤ limiter.limit := by
  intro last isLast
  obtain rfl : (limiter.checkBucket now entry).2 = last := Option.some.inj isLast
  refine ⟨checkBucket_start, ?_⟩
  rcases checkBucket_cases limiter now entry with ⟨-, retry, rejects⟩ | ⟨below, admits⟩
  · rw [rejects]
    rcases currentBucket_cases limiter now entry with ⟨opened, -⟩ | ⟨goesOn, -⟩
    · rw [opened]
      exact Nat.zero_le _
    · exact fits _ goesOn
  · rw [admits]
    exact below

/-- Together with those that the bucket has counted, they are within the limit. -/
theorem admittedIn_le (positive : 0 < limiter.window) {times : List Nat}
    (ordered : times.Pairwise (· ≤ ·))
    (later : ∀ last ∈ entry, ∀ time ∈ times, last.start ≤ time)
    (fits : ∀ last ∈ entry, last.count ≤ limiter.limit) (start : Nat) :
    admittedIn start (answers limiter.serveOne entry times) + counted entry start ≤
      limiter.limit := by
  induction times generalizing entry with
  | nil => simpa [admittedIn] using counted_le fits start
  | cons now times inductionHypothesis =>
      obtain ⟨first, rest⟩ := List.pairwise_cons.mp ordered
      have next := @serveOne_bucket _ limiter now entry fits
      have begun := (currentBucket_place positive
        fun last isLast => later last isLast now List.mem_cons_self).1
      have afterwards := inductionHypothesis rest
        (fun last isLast time isTime =>
          (next last isLast).1 ▸ Nat.le_trans begun (first time isTime))
        fun last isLast => (next last isLast).2
      have added := @counted_serveOne _ limiter now entry start
      rw [answers_cons, admittedIn_cons]
      rcases currentBucket_cases limiter now entry with ⟨opened, expired⟩ | ⟨goesOn, -⟩
      · by_cases before : ∃ last ∈ entry, last.start = start
        · -- The window has expired, and no later request falls in it.
          obtain ⟨last, isLast, rfl⟩ := before
          have none : admittedIn last.start (answers limiter.serveOne entry (now :: times)) = 0 := by
            refine List.countP_eq_zero.mpr fun served member counts => ?_
            have ended := expired last isLast
            rw [Bool.and_eq_true, decide_eq_true_eq] at counts
            rw [answers_cons, List.mem_cons] at member
            rcases member with rfl | member
            · have here : (limiter.checkBucket now entry).2.start = last.start :=
                Option.some.inj counts.2
              rw [checkBucket_start, opened] at here
              dsimp only at here
              omega
            · obtain ⟨start, isWindow, -, -, apart⟩ := served_window positive rest
                (fun last isLast time isTime =>
                  (next last isLast).1 ▸ Nat.le_trans begun (first time isTime)) member
              obtain rfl : start = last.start := Option.some.inj (isWindow.symm.trans counts.2)
              have fromHere := apart _ rfl
              rw [(next _ rfl).1, opened] at fromHere
              dsimp only at fromHere
              omega
          rw [answers_cons, admittedIn_cons] at none
          rw [none, Nat.zero_add]
          exact counted_le fits last.start
        · have uncounted : counted entry start = 0 := by
            unfold counted
            split
            · rfl
            · rw [if_neg fun same => before ⟨_, rfl, same⟩]
          omega
      · rw [← goesOn] at added
        omega

/-- Two requests are in the same window, or in windows that do not overlap. -/
def Apart (length : Nat) (one other : Served) : Prop :=
  ∀ left ∈ one.window, ∀ right ∈ other.window,
    left = right ∨ left + length ≤ right ∨ right + length ≤ left

theorem served_apart (positive : 0 < limiter.window) {times : List Nat}
    (ordered : times.Pairwise (· ≤ ·))
    (later : ∀ last ∈ entry, ∀ time ∈ times, last.start ≤ time) :
    (answers limiter.serveOne entry times).Pairwise (Apart limiter.window) := by
  induction times generalizing entry with
  | nil => exact List.Pairwise.nil
  | cons now times inductionHypothesis =>
      obtain ⟨first, rest⟩ := List.pairwise_cons.mp ordered
      have begun := (currentBucket_place positive
        fun last isLast => later last isLast now List.mem_cons_self).1
      have afterwards : ∀ last ∈ (limiter.serveOne now entry).2, ∀ time ∈ times,
          last.start ≤ time := by
        intro last isLast time isTime
        obtain rfl : (limiter.checkBucket now entry).2 = last := Option.some.inj isLast
        rw [checkBucket_start]
        exact Nat.le_trans begun (first time isTime)
      rw [answers_cons, List.pairwise_cons]
      refine ⟨fun served member left isLeft right isRight => ?_, inductionHypothesis rest afterwards⟩
      obtain ⟨start, isWindow, -, -, apart⟩ := served_window positive rest afterwards member
      obtain rfl : start = right := Option.some.inj (isWindow.symm.trans isRight)
      obtain rfl : (limiter.checkBucket now entry).2.start = left := Option.some.inj isLeft
      have fromHere : start = (limiter.checkBucket now entry).2.start ∨
          (limiter.checkBucket now entry).2.start + limiter.window ≤ start := apart _ rfl
      omega

/-- The requests admitted from an instant on and before another one. -/
def admittedBetween (first last : Nat) (log : List Served) : Nat :=
  log.countP fun served => served.admitted && (first ≤ served.time && served.time < last)

/-- Requests in windows that are too close to be different are within the limit. -/
theorem countP_le_of_close (positive : 0 < limiter.window) {times : List Nat}
    (ordered : times.Pairwise (· ≤ ·)) {chosen : Served → Bool}
    (areAdmitted : ∀ served, chosen served = true → served.admitted = true)
    (close : ∀ one other left right, chosen one = true → chosen other = true →
      one ∈ answers limiter.serveOne none times → other ∈ answers limiter.serveOne none times →
      one.window = some left → other.window = some right → left < right + limiter.window) :
    (answers limiter.serveOne none times).countP chosen ≤ limiter.limit := by
  have placed {served : Served} (member : served ∈ answers limiter.serveOne none times) :=
    served_window positive ordered (by simp) member
  refine @countP_le_of_agree _ _ _ chosen _ (fun served => served.window.getD 0) _
    (fun start => ?_) fun one member other within isChosen also => ?_
  · have total := @admittedIn_le _ limiter none positive times ordered (by simp) (by simp) start
    refine Nat.le_trans (List.countP_mono_left fun served member counts => ?_)
      (Nat.le_trans (Nat.le_add_right _ _) total)
    obtain ⟨opened, isWindow, -⟩ := placed member
    simp only [Bool.and_eq_true, decide_eq_true_eq, isWindow, Option.getD_some] at counts ⊢
    exact ⟨areAdmitted served counts.1, congrArg some counts.2⟩
  · obtain ⟨left, isLeft, -⟩ := placed member
    obtain ⟨right, isRight, -⟩ := placed within
    have oneWay := close one other left right isChosen also member within isLeft isRight
    have otherWay := close other one right left also isChosen within member isRight isLeft
    have symmetric : Std.Symm (Apart limiter.window) :=
      ⟨fun one other apart left isLeft right isRight => by
        have reversed := apart right isRight left isLeft
        omega⟩
    have apart : Apart limiter.window one other :=
      List.Pairwise.forall_of_forall
        (fun served _ left isLeft right isRight =>
          .inl (Option.some.inj (isLeft.symm.trans isRight)))
        (@served_apart _ limiter none positive times ordered (by simp)) member within
    have cases := apart left isLeft right isRight
    rw [isLeft, isRight, Option.getD_some, Option.getD_some]
    omega

/-- The window of the request opened before the instant. -/
def Served.opensBefore (instant : Nat) (served : Served) : Bool :=
  served.window.any (· < instant)

/-- An interval of the length of a window meets at most two windows: one that was open when it
began, and one that opens in it. -/
theorem admittedBetween_le (positive : 0 < limiter.window) {times : List Nat}
    (ordered : times.Pairwise (· ≤ ·)) (first : Nat) :
    admittedBetween first (first + limiter.window) (answers limiter.serveOne none times) ≤
      2 * limiter.limit := by
  have placed {served : Served} (member : served ∈ answers limiter.serveOne none times) :=
    served_window positive ordered (by simp) member
  unfold admittedBetween
  rw [List.countP_eq_countP_filter_add _ _ (Served.opensBefore first), List.countP_filter,
    List.countP_filter, Nat.two_mul]
  refine Nat.add_le_add (countP_le_of_close positive ordered ?_ ?_)
    (countP_le_of_close positive ordered ?_ ?_)
  · intro served isChosen
    simp only [Bool.and_eq_true] at isChosen
    exact isChosen.1.1
  · intro one other left right isChosen also member within isLeft isRight
    obtain ⟨start, isWindow, -, inside, -⟩ := placed within
    obtain rfl : start = right := Option.some.inj (isWindow.symm.trans isRight)
    simp only [Served.opensBefore, isLeft, isRight, Option.any_some, Bool.and_eq_true,
      decide_eq_true_eq] at isChosen also
    omega
  · intro served isChosen
    simp only [Bool.and_eq_true] at isChosen
    exact isChosen.1.1
  · intro one other left right isChosen also member within isLeft isRight
    obtain ⟨start, isWindow, begun, -, -⟩ := placed member
    obtain rfl : start = left := Option.some.inj (isWindow.symm.trans isLeft)
    simp only [Served.opensBefore, isLeft, isRight, Option.any_some, Bool.and_eq_true,
      Bool.not_eq_true', decide_eq_true_eq, decide_eq_false_iff_not] at isChosen also
    omega

end OneBucket

/-! ## The limiter -/

section Limiter

variable [DecidableEq Ip]

/-- What an address is answered. -/
def answersTo (ip : Ip) (log : List (Ip × Served)) : List Served :=
  (under ip log).map Prod.snd

theorem answersTo_log (limiter : RateLimiter Ip) (requests : List (Ip × Nat)) (ip : Ip) :
    answersTo ip (limiter.log requests) =
      answers limiter.serveOne none ((under ip requests).map Prod.snd) := by
  unfold answersTo RateLimiter.log
  rw [RateLimiter.serve_eq_keyed, under_answers_keyed, List.map_map]
  exact List.map_id _

theorem times_ordered {requests : List (Ip × Nat)}
    (ordered : requests.Pairwise fun earlier later => earlier.2 ≤ later.2) (ip : Ip) :
    ((under ip requests).map Prod.snd).Pairwise (· ≤ ·) :=
  List.pairwise_map.mpr (ordered.filter _)

/-- Whatever the others send, an address is admitted within the limit in each window, and
within twice the limit in each minute, and it is answered as if it were alone. -/
theorem admitted_within_limit (limit : Nat) (proxies : List Ip) (requests : List (Ip × Nat))
    (ordered : requests.Pairwise fun earlier later => earlier.2 ≤ later.2) (ip : Ip) :
    let limiter := (RateLimiter.new limit).withTrustedProxies proxies
    (∀ served ∈ answersTo ip (limiter.log requests), ∃ start, served.window = some start ∧
      start ≤ served.time ∧ served.time < start + 60 * second) ∧
    (∀ start, admittedIn start (answersTo ip (limiter.log requests)) ≤ limit) ∧
    (∀ first, admittedBetween first (first + 60 * second)
      (answersTo ip (limiter.log requests)) ≤ 2 * limit) ∧
    under ip (limiter.log requests) = limiter.log (under ip requests) := by
  intro limiter
  have positive : 0 < limiter.window := by
    show 0 < 60 * second
    decide
  have sorted := times_ordered ordered ip
  rw [answersTo_log]
  refine ⟨fun served member => ?_, fun start => ?_, fun first => ?_, ?_⟩
  · obtain ⟨start, isWindow, begun, within, -⟩ :=
      served_window positive sorted (by simp) member
    exact ⟨start, isWindow, begun, within⟩
  · have total := @admittedIn_le _ limiter none positive _ sorted (by simp) (by simp) start
    exact Nat.le_trans (Nat.le_add_right _ _) total
  · exact admittedBetween_le positive sorted first
  · unfold RateLimiter.log
    rw [RateLimiter.serve_eq_keyed, under_answers_isolated]

/-- Two addresses that are admitted once each, in spite of the limit of one. -/
theorem admitted_one_each :
    let limiter := (RateLimiter.new 1).withTrustedProxies []
    let requests : List (Nat × Nat) := [(1, 0), (2, second), (1, second)]
    (∀ served ∈ answersTo 1 (limiter.log requests), ∃ start, served.window = some start ∧
      start ≤ served.time ∧ served.time < start + 60 * second) ∧
    (∀ start, admittedIn start (answersTo 1 (limiter.log requests)) ≤ 1) ∧
    (∀ first, admittedBetween first (first + 60 * second)
      (answersTo 1 (limiter.log requests)) ≤ 2 * 1) ∧
    under 1 (limiter.log requests) = limiter.log (under 1 requests) :=
  admitted_within_limit 1 [] [(1, 0), (2, second), (1, second)] (by decide) 1

/-! ## Retrying -/

theorem bucketsAfter_own (limiter : RateLimiter Ip) (requests : List (Ip × Nat)) (ip : Ip) :
    limiter.bucketsAfter requests ip =
      settled limiter.serveOne none ((under ip requests).map Prod.snd) := by
  unfold RateLimiter.bucketsAfter
  rw [RateLimiter.serve_eq_keyed, settled_keyed]

/-- The requests of others leave the bucket of an address alone. -/
theorem bucketsAfter_others (limiter : RateLimiter Ip) (history : List (Ip × Nat)) {ip : Ip}
    {others : List (Ip × Nat)} (notOwn : ∀ other ∈ others, other.1 ≠ ip) (now : Nat) :
    limiter.bucketsAfter (history ++ (ip, now) :: others) ip =
      some (limiter.checkBucket now (limiter.bucketsAfter history ip)).2 := by
  have own : under ip (history ++ (ip, now) :: others) = under ip history ++ [(ip, now)] := by
    have gone := under_eq_nil notOwn
    unfold under at gone ⊢
    rw [List.filter_append, List.filter_cons_of_pos (by simp), gone]
  rw [bucketsAfter_own, bucketsAfter_own, own, List.map_append, settled_append]
  rfl

omit [DecidableEq Ip] in
/-- A bucket that rejects is in a window that goes on and is full. -/
theorem rejected_bucket {limiter : RateLimiter Ip} (positive : 0 < limiter.limit) {now retry : Nat}
    {entry : Option Window} (rejected : (limiter.checkBucket now entry).1 = .error retry) :
    ∃ window, entry = some window ∧ (limiter.checkBucket now entry).2 = window ∧
      limiter.limit ≤ window.count ∧ now - window.start < limiter.window ∧
      retry = max ((limiter.window - (now - window.start)) / second) 1 := by
  rcases currentBucket_cases limiter now entry with ⟨opened, -⟩ | ⟨goesOn, within⟩
  · have empty : ¬limiter.limit ≤ (limiter.currentBucket now entry).count := by
      rw [opened]
      exact Nat.not_le_of_lt positive
    unfold RateLimiter.checkBucket at rejected
    dsimp only at rejected
    rw [if_neg empty] at rejected
    cases rejected
  · unfold RateLimiter.checkBucket at rejected ⊢
    dsimp only at rejected ⊢
    split at rejected
    next full =>
      rw [if_pos full]
      exact ⟨_, goesOn, rfl, full, within, (Except.error.inj rejected).symm⟩
    next => cases rejected

omit [DecidableEq Ip] in
/-- A full bucket admits once its window is over. -/
theorem full_admits_iff {limiter : RateLimiter Ip} (positive : 0 < limiter.limit) {now : Nat}
    {window : Window} (full : limiter.limit ≤ window.count) :
    (limiter.checkBucket now (some window)).1 = .ok () ↔
      limiter.window ≤ now - window.start := by
  unfold RateLimiter.checkBucket RateLimiter.currentBucket
  dsimp only [Option.getD_some]
  by_cases ended : limiter.window ≤ now - window.start
  · rw [if_pos ended, if_neg (Nat.not_le_of_lt positive)]
    exact iff_of_true rfl ended
  · rw [if_neg ended, if_pos full]
    exact iff_of_false (by simp) ended

/-- A client that waits as long as it was told is admitted, exactly if the rejection came a
whole number of seconds after the start of the window, or in its last second. -/
theorem retry_admitted_iff (limit : Nat) (positive : 1 ≤ limit) (proxies : List Ip)
    (history : List (Ip × Nat)) (ip : Ip) (now retry : Nat) :
    let limiter := (RateLimiter.new limit).withTrustedProxies proxies
    (limiter.check ip now (limiter.bucketsAfter history)).1 = .error retry →
    ((∀ others : List (Ip × Nat), (∀ other ∈ others, other.1 ≠ ip) →
      ∀ later, now + retry * second ≤ later →
        (limiter.check ip later
          (limiter.bucketsAfter (history ++ (ip, now) :: others))).1 = .ok ()) ↔
      ∃ window, limiter.bucketsAfter history ip = some window ∧ window.start ≤ now ∧
        ((now - window.start) % second = 0 ∨ 59 * second < now - window.start)) := by
  intro limiter rejected
  have admitsSome : 0 < limiter.limit := positive
  obtain ⟨window, isWindow, kept, full, within, retryIs⟩ := rejected_bucket admitsSome rejected
  have length : limiter.window = 60 * second := rfl
  have answer : ∀ others : List (Ip × Nat), (∀ other ∈ others, other.1 ≠ ip) → ∀ later,
      (limiter.check ip later (limiter.bucketsAfter (history ++ (ip, now) :: others))).1 = .ok () ↔
        60 * second ≤ later - window.start := by
    intro others notOwn later
    have bucket := bucketsAfter_others limiter history notOwn now
    rw [kept] at bucket
    show (limiter.checkBucket later _).1 = .ok () ↔ _
    rw [bucket, full_admits_iff admitsSome full, length]
  rw [length] at within retryIs
  simp only [second] at *
  constructor
  · intro honoured
    have atOnce := (answer [] (by simp) _).mp (honoured [] (by simp) _ (Nat.le_refl _))
    refine ⟨window, isWindow, ?_, ?_⟩ <;> omega
  · rintro ⟨other, isOther, begun, early⟩ others notOwn later waited
    obtain rfl : window = other := Option.some.inj (isWindow.symm.trans isOther)
    rw [answer others notOwn later]
    omega

/-- A client that is rejected one second after its first request, and told to wait for 59. -/
theorem retry_admitted_on_the_second :
    let limiter := (RateLimiter.new 1).withTrustedProxies []
    ((∀ others : List (Nat × Nat), (∀ other ∈ others, other.1 ≠ 1) →
      ∀ later, second + 59 * second ≤ later →
        (limiter.check 1 later
          (limiter.bucketsAfter ([(1, 0)] ++ (1, second) :: others))).1 = .ok ()) ↔
      ∃ window, limiter.bucketsAfter [(1, 0)] 1 = some window ∧ window.start ≤ second ∧
        ((second - window.start) % second = 0 ∨ 59 * second < second - window.start)) :=
  retry_admitted_iff 1 (by decide) [] [(1, 0)] 1 second 59 rfl

/-- A client that is rejected half a second after its first request is told to wait for 59
seconds, and is rejected once more when it has done so. -/
theorem retry_too_early :
    let limiter := RateLimiter.new 1
    (limiter.check 1 (second / 2) (limiter.bucketsAfter [(1, 0)])).1 = .error 59 ∧
    (limiter.check 1 (second / 2 + 59 * second)
      (limiter.bucketsAfter [(1, 0), (1, second / 2)])).1 = .error 1 :=
  ⟨rfl, rfl⟩

end Limiter

end RateLimit
end TootTok
