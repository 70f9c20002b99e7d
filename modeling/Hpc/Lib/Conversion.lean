import Mathlib.Data.List.Basic

set_option autoImplicit false

namespace Hpc.Lib

-- A pair of conversions between a domain type and its wire type. The wire has more values than the domain, so the way back
-- is exact only on the proper ones, and any other value settles after one round.
structure RoundTrips {Domain Wire : Type} (encode : Domain → Wire) (decode : Wire → Domain) (proper : Wire → Prop) : Prop where
  decoded : ∀ value, decode (encode value) = value
  settled : ∀ message, decode (encode (decode message)) = decode message
  encoded : ∀ message, proper message → encode (decode message) = message

section Rules

variable {Domain Wire : Type} (encode : Domain → Wire) (decode : Wire → Domain) (proper : Wire → Prop)

theorem round_trips (decoded : ∀ value, decode (encode value) = value)
    (encoded : ∀ message, proper message → encode (decode message) = message) : RoundTrips encode decode proper :=
  ⟨decoded, fun message => decoded (decode message), encoded⟩

theorem optional_decoded (trips : RoundTrips encode decode proper) (default value : Domain) :
    ((some (encode value)).map decode).getD default = value := trips.decoded value

theorem optional_encoded (trips : RoundTrips encode decode fun _ => True) (default : Domain) (message : Option Wire)
    (present : message ≠ none) : some (encode ((message.map decode).getD default)) = message := by
  cases message with
  | none => exact absurd rfl present
  | some sent => exact congrArg some (trips.encoded sent trivial)

theorem repeated_decoded (trips : RoundTrips encode decode proper) (values : List Domain) :
    (values.map encode).map decode = values := by
  have back : decode ∘ encode = id := funext trips.decoded
  rw [List.map_map, back, List.map_id]

theorem repeated_encoded (trips : RoundTrips encode decode fun _ => True) (messages : List Wire) :
    (messages.map decode).map encode = messages := by
  have back : encode ∘ decode = id := funext fun message => trips.encoded message trivial
  rw [List.map_map, back, List.map_id]

end Rules

end Hpc.Lib
