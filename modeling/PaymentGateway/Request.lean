import PaymentGateway.FieldList
import PaymentGateway.Instrument
import PaymentGateway.TransactionType

/-! # Request — one request to the gateway, in one of its three shapes

The transaction type follows from the shape and its kind, so no request travels under the code of
another shape. `Request.fields` lists the merchant's login, the transaction type and the fields of the
shape, and lays the caller's overlay on top. -/

namespace PaymentGateway

structure Payer where
  firstName : Option String := none
  lastName : Option String := none
  streetLine1 : Option String := none
  state : Option String := none
  zip : Option String := none
  phone : Option String := none
  email : Option String := none
  deriving DecidableEq

structure Card where
  number : String
  holderName : Option String
  network : Option CardNetwork
  expirationMonth : Option String
  expirationYear : Option String
  deriving DecidableEq

structure BankAccount where
  number : String
  routingNumber : Option String
  kind : Option AccountKind
  deriving DecidableEq

/-- A request. A funds request without details of its instrument is paid with a stored token. -/
inductive Request where
  | card (kind : Movement) (amount : Decimal) (payer : Payer) (card : Option Card)
  | eft (kind : Movement) (amount : Decimal) (payer : Payer) (account : Option BankAccount)
  | modification (kind : Modification) (rail : Rail) (originalTrace : String)
      (originalAuthorization : Option String)
  deriving DecidableEq

structure Credentials where
  merchantId : String
  password : String
  deriving DecidableEq

/-- Credentials as messages show them: the password stays hidden. -/
def Credentials.shown (c : Credentials) : String :=
  s!"MerchantCredentials \x7b merchant_id: {Text.quoted c.merchantId}, password: \"***\" \x7d"

namespace Request

def transactionType : Request → TransactionType
  | .card kind _ _ _ => ⟨.card, kind.action⟩
  | .eft kind _ _ _ => ⟨.eft, kind.action⟩
  | .modification kind rail _ _ => ⟨rail, kind.action⟩

/-- A field with its value, if the value is there. -/
def present (field : Field) (value : Option String) : List (Field × String) :=
  (value.map fun text => (field, text)).toList

def cardFields (card : Card) : List (Field × String) :=
  present .cardName card.holderName ++
  present .cardType (card.network.map CardNetwork.code) ++
  [(.cardNumber, card.number)] ++
  present .cardExpMonth card.expirationMonth ++
  present .cardExpYear card.expirationYear

def accountFields (account : BankAccount) : List (Field × String) :=
  present .checkTrn account.routingNumber ++
  [(.checkAccount, account.number)] ++
  present .checkAccountType (account.kind.map AccountKind.code)

def fundsFields (amount : Decimal) (payer : Payer) : List (Field × String) :=
  [(.totalAmount, amount.moneyText)] ++
  present .billToFirstName payer.firstName ++
  present .billToLastName payer.lastName ++
  present .billToStreetLine1 payer.streetLine1 ++
  present .billToState payer.state ++
  present .billToPostalCode payer.zip ++
  present .billToPhone payer.phone ++
  present .billToEmail payer.email

def shapeFields : Request → List (Field × String)
  | .card _ amount payer details =>
      (details.map cardFields).getD [] ++ fundsFields amount payer
  | .eft _ amount payer details =>
      (details.map accountFields).getD [] ++ fundsFields amount payer
  | .modification _ _ originalTrace originalAuthorization =>
      [(.originalTraceNumber, originalTrace)] ++
      present .originalAuthorizationCode originalAuthorization

/-- The fields computed for a request: the login, the transaction type and those of the shape. -/
def computedFields (credentials : Credentials) (request : Request) : List (Field × String) :=
  [(.merchantId, credentials.merchantId), (.password, credentials.password),
    (.transactionType, request.transactionType.code)] ++ request.shapeFields

/-- The complete request: the computed fields with the caller's overlay on top. -/
def fields (credentials : Credentials) (request : Request) (overlay : FieldList) : FieldList :=
  let computed := (computedFields credentials request).map fun (field, value) => (field.wireName, value)
  (FieldList.ofList computed).merge overlay

end Request

end PaymentGateway
