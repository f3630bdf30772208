import PaymentGateway.Account
import PaymentGateway.Outcome

/-! # Stores — receipts, payment methods and accounts kept in memory

The ledger of receipts only grows. Payment methods are kept by tenant and identifier, accounts by
identifier; in both the last record written wins. -/

namespace PaymentGateway

/-- The receipts of all exchanges, oldest first. -/
structure Ledger where
  receipts : List Receipt
  deriving DecidableEq

namespace Ledger

def empty : Ledger := ⟨[]⟩

def append (ledger : Ledger) (receipt : Receipt) : Ledger :=
  ⟨ledger.receipts ++ [receipt]⟩

def ofPayment (ledger : Ledger) (payment tenant : Uuid) : List Receipt :=
  ledger.receipts.filter fun r => r.paymentId == payment && r.tenantId == tenant

/-- What the newest approved authorization of a payment offers as a reference. -/
def lastAuthorization? (ledger : Ledger) (payment tenant : Uuid) : Option AuthorizationReference :=
  ((ledger.ofPayment payment tenant).reverse.find? (·.isModifiable)).bind
    (·.reference?)

end Ledger

/-- The stored payment methods, the last written first. -/
structure PaymentMethods where
  records : List PaymentMethod
  deriving DecidableEq

namespace PaymentMethods

def empty : PaymentMethods := ⟨[]⟩

def put (methods : PaymentMethods) (record : PaymentMethod) : PaymentMethods :=
  ⟨record :: methods.records⟩

/-- The payment method that a tenant stored last under an identifier. -/
def find? (methods : PaymentMethods) (id tenant : Uuid) : Option PaymentMethod :=
  methods.records.find? fun r => r.id == id && r.tenantId == tenant

end PaymentMethods

/-- The known accounts, the last written first. -/
structure Accounts where
  records : List Account
  deriving DecidableEq

namespace Accounts

def empty : Accounts := ⟨[]⟩

def put (accounts : Accounts) (account : Account) : Accounts :=
  ⟨account :: accounts.records⟩

def find? (accounts : Accounts) (id : Uuid) : Option Account :=
  accounts.records.find? fun a => a.id == id

end Accounts

/-- Everything that a gateway integration keeps in memory. -/
structure Stores where
  ledger : Ledger
  methods : PaymentMethods
  accounts : Accounts
  deriving DecidableEq

def Stores.empty : Stores := ⟨.empty, .empty, .empty⟩

end PaymentGateway
