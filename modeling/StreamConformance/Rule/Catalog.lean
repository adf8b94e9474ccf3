import StreamConformance.Rule.Basic
import StreamConformance.Rule.Scenario

/-!
# The catalog

All entries in the order of the protocol: twelve with a scenario, and twelve that are only listed.

## Main definitions

* `Catalog.rules` — the entries.
* `Catalog.find?` — the entry of a name.
* `Catalog.entries` — what is known of the entries without running them.
-/

namespace StreamConformance.Catalog

variable {α σ η : Type}

/-- An entry that is verified. -/
def required (name : String) (rules : List String) (description : String)
    (scenario : Scenario α σ η) : Rule α σ η :=
  ⟨⟨name, rules, description, .required⟩, some scenario⟩

/-- An entry that is only listed. -/
def notVerified (name : String) (rules : List String) (description : String) : Rule α σ η :=
  ⟨⟨name, rules, description, .notVerified⟩, none⟩

/-- All entries, in the order of the protocol. -/
def rules [Element α] : List (Rule α σ η) := [
  required
    "required_exercise_whitebox_happy_path" []
    "request, receive and cancel through the puppet" Scenario.happyPath,
  required
    "required_spec201_must_signal_demand_via_subscription_request" ["2.1"]
    "Subscriber must signal demand via Subscription.request" Scenario.signalsDemand,
  notVerified
    "untested_spec202_should_asynchronously_dispatch" ["2.2"]
    "Subscriber should asynchronously dispatch",
  required
    "required_spec203_must_not_call_methods_on_subscription_or_publisher_in_on_complete" ["2.3"]
    "onComplete must not call Subscription or Publisher methods"
    (fun v => Scenario.terminalReentrancy v .complete),
  required
    "required_spec203_must_not_call_methods_on_subscription_or_publisher_in_on_error" ["2.3"]
    "onError must not call Subscription or Publisher methods"
    (fun v => Scenario.terminalReentrancy v .error),
  notVerified
    "untested_spec204_must_consider_the_subscription_as_cancelled_after_on_complete_or_on_error"
    ["2.4"]
    "Subscription is cancelled after onComplete or onError",
  required
    ("required_spec205_must_call_subscription_cancel_if_it_already_has_a_subscription_and_" ++
      "receives_another_on_subscribe_signal") ["2.5"]
    "a second onSubscribe must be answered with cancel" Scenario.cancelsSecondSubscription,
  notVerified
    "untested_spec206_must_call_subscription_cancel_if_it_is_no_longer_valid" ["2.6"]
    "Subscriber must cancel a subscription it no longer needs",
  notVerified
    ("untested_spec207_must_ensure_all_calls_on_its_subscription_take_place_from_the_same_" ++
      "thread_or_take_care_of_synchronization") ["2.7"]
    "calls on the subscription are serialized",
  required
    ("required_spec208_must_be_prepared_to_receive_on_next_signals_after_having_called_" ++
      "subscription_cancel") ["2.8"]
    "onNext may still arrive after cancel" Scenario.toleratesNextAfterCancel,
  required
    "required_spec209_must_be_prepared_to_receive_an_on_complete_signal_with_preceding_request_call"
    ["2.9"]
    "onComplete after a request" Scenario.completionAfterRequest,
  required
    ("required_spec209_must_be_prepared_to_receive_an_on_complete_signal_without_preceding_" ++
      "request_call") ["2.9"]
    "onComplete without any request" Scenario.completionWithoutRequest,
  required
    "required_spec210_must_be_prepared_to_receive_an_on_error_signal_with_preceding_request_call"
    ["2.10"]
    "onError after a request" Scenario.errorAfterRequest,
  required
    "required_spec210_must_be_prepared_to_receive_an_on_error_signal_without_preceding_request_call"
    ["2.10"]
    "onError without any request" Scenario.errorWithoutRequest,
  notVerified
    ("untested_spec211_must_make_sure_that_all_calls_on_its_methods_happen_before_the_" ++
      "processing_of_the_respective_events") ["2.11"]
    "signal calls happen-before their processing",
  required
    "required_spec212_must_not_call_on_subscribe_more_than_once_based_on_object_equality" ["2.12"]
    "subscribing the same subscriber twice is rejected" Scenario.rejectsSecondSubscribe,
  notVerified
    "untested_spec213_failing_on_signal_invocation" ["2.13"]
    "signal methods return normally",
  notVerified
    "untested_spec301_must_not_be_called_outside_subscriber_context" ["3.1"]
    "Subscription methods are only called by its Subscriber",
  required
    "required_spec308_request_must_register_given_number_elements_to_be_produced" ["3.8"]
    "request(n) registers exactly n elements of demand" Scenario.registersDemand,
  notVerified
    "untested_spec310_request_may_synchronously_call_on_next_on_subscriber" ["3.10"]
    "request may call onNext synchronously",
  notVerified
    "untested_spec311_request_may_synchronously_call_on_complete_or_on_error" ["3.11"]
    "request may call onComplete or onError synchronously",
  notVerified
    "untested_spec314_cancel_may_cause_the_publisher_to_shutdown_if_no_other_subscription_exists"
    ["3.14"]
    "cancel may shut the publisher down",
  notVerified
    "untested_spec315_cancel_must_not_throw_exception_and_must_signal_on_error" ["3.15"]
    "cancel returns normally",
  notVerified
    "untested_spec316_request_must_not_throw_exception_and_must_on_error_the_subscriber" ["3.16"]
    "request returns normally"]

/-- The entry of a name. -/
def find? [Element α] (name : String) : Option (Rule α σ η) := rules.find? fun r => r.name == name

/-- What is known of all entries without running them. -/
def entries : List Entry := (rules : List (Rule UInt64 Unit Unit)).map Rule.toEntry

end StreamConformance.Catalog
