/-! # Field — the closed vocabulary of request and response fields

Every field that the gateway understands has a label in the catalog and a name on the wire. -/

namespace PaymentGateway

/-- A field of a request or a response. -/
inductive Field where
  | merchantId
  | password
  | transactionType
  | merchantData1
  | merchantData2
  | merchantData3
  | merchantData4
  | merchantData5
  | merchantData6
  | merchantData7
  | merchantData8
  | merchantData9
  | totalAmount
  | salesTaxAmount
  | consumerId
  | consumerOrderId
  | walletId
  | customerToken
  | clientId
  | billToCompany
  | billToFirstName
  | billToLastName
  | billToStreetLine1
  | billToStreetLine2
  | billToCity
  | billToState
  | billToPostalCode
  | billToCountryCode
  | billToPhone
  | billToEmail
  | billToSsn
  | billToDlNumber
  | billToDlState
  | billToDateOfBirth
  | enteredBy
  | scheduleQuantity
  | scheduleFrequency
  | scheduleRecurringAmount
  | scheduleStartDate
  | customerIpAddress
  | merchantRecurring
  | softwareName
  | softwareVersion
  | avsMethod
  | cardType
  | cardName
  | cardNumber
  | cardExpMonth
  | cardExpYear
  | cardVerification
  | procurementCard
  | customerAcctCode
  | ccSwipeData
  | ccEncSwipeData
  | ccEncDecryptor
  | secureData3d
  | secureAuthenticated3d
  | partialAuthAllowed
  | mailOrPhoneOrder
  | paymentToken
  | paymentMethodId
  | onetimeToken
  | checkTrn
  | checkAccount
  | checkAccountType
  | checkNumber
  | entryClassCode
  | traceNumber
  | authorizationCode
  | originalTraceNumber
  | originalAuthorizationCode
  | responseType
  | responseDescription
  | responseCode
  | avsResult
  | preauthResult
  | preauthDescription
  | preauthNegReport
  | cvv2Result
  | secureResult3d
  | availableCardBalance
  | requestedAmount
  | convenienceFee
  deriving DecidableEq, Repr

namespace Field

/-- The catalog, in its order. -/
def all : List Field :=
  [.merchantId, .password, .transactionType, .merchantData1, .merchantData2, .merchantData3,
   .merchantData4, .merchantData5, .merchantData6, .merchantData7, .merchantData8,
   .merchantData9, .totalAmount, .salesTaxAmount, .consumerId, .consumerOrderId, .walletId,
   .customerToken, .clientId, .billToCompany, .billToFirstName, .billToLastName,
   .billToStreetLine1, .billToStreetLine2, .billToCity, .billToState, .billToPostalCode,
   .billToCountryCode, .billToPhone, .billToEmail, .billToSsn, .billToDlNumber, .billToDlState,
   .billToDateOfBirth, .enteredBy, .scheduleQuantity, .scheduleFrequency,
   .scheduleRecurringAmount, .scheduleStartDate, .customerIpAddress, .merchantRecurring,
   .softwareName, .softwareVersion, .avsMethod, .cardType, .cardName, .cardNumber, .cardExpMonth,
   .cardExpYear, .cardVerification, .procurementCard, .customerAcctCode, .ccSwipeData,
   .ccEncSwipeData, .ccEncDecryptor, .secureData3d, .secureAuthenticated3d, .partialAuthAllowed,
   .mailOrPhoneOrder, .paymentToken, .paymentMethodId, .onetimeToken, .checkTrn, .checkAccount,
   .checkAccountType, .checkNumber, .entryClassCode, .traceNumber, .authorizationCode,
   .originalTraceNumber, .originalAuthorizationCode, .responseType, .responseDescription,
   .responseCode, .avsResult, .preauthResult, .preauthDescription, .preauthNegReport,
   .cvv2Result, .secureResult3d, .availableCardBalance, .requestedAmount, .convenienceFee]

def wireName : Field → String
  | .merchantId => "pg_merchant_id"
  | .password => "pg_password"
  | .transactionType => "pg_transaction_type"
  | .merchantData1 => "pg_merchant_data_1"
  | .merchantData2 => "pg_merchant_data_2"
  | .merchantData3 => "pg_merchant_data_3"
  | .merchantData4 => "pg_merchant_data_4"
  | .merchantData5 => "pg_merchant_data_5"
  | .merchantData6 => "pg_merchant_data_6"
  | .merchantData7 => "pg_merchant_data_7"
  | .merchantData8 => "pg_merchant_data_8"
  | .merchantData9 => "pg_merchant_data_9"
  | .totalAmount => "pg_total_amount"
  | .salesTaxAmount => "pg_sales_tax_amount"
  | .consumerId => "pg_consumer_id"
  | .consumerOrderId => "ecom_consumerorderid"
  | .walletId => "ecom_walletid"
  | .customerToken => "pg_customer_token"
  | .clientId => "pg_client_id"
  | .billToCompany => "pg_billto_postal_name_company"
  | .billToFirstName => "ecom_billto_postal_name_first"
  | .billToLastName => "ecom_billto_postal_name_last"
  | .billToStreetLine1 => "ecom_billto_postal_street_line1"
  | .billToStreetLine2 => "ecom_billto_postal_street_line2"
  | .billToCity => "ecom_billto_postal_city"
  | .billToState => "ecom_billto_postal_stateprov"
  | .billToPostalCode => "ecom_billto_postal_postalcode"
  | .billToCountryCode => "ecom_billto_postal_countrycode"
  | .billToPhone => "ecom_billto_telecom_phone_number"
  | .billToEmail => "ecom_billto_online_email"
  | .billToSsn => "pg_billto_ssn"
  | .billToDlNumber => "pg_billto_dl_number"
  | .billToDlState => "pg_billto_dl_state"
  | .billToDateOfBirth => "pg_billto_date_of_birth"
  | .enteredBy => "pg_entered_by"
  | .scheduleQuantity => "pg_schedule_quantity"
  | .scheduleFrequency => "pg_schedule_frequency"
  | .scheduleRecurringAmount => "pg_schedule_recurring_amount"
  | .scheduleStartDate => "pg_schedule_start_date"
  | .customerIpAddress => "pg_customer_ip_address"
  | .merchantRecurring => "pg_merchant_recurring"
  | .softwareName => "pg_software_name"
  | .softwareVersion => "pg_software_version"
  | .avsMethod => "pg_avs_method"
  | .cardType => "ecom_payment_card_type"
  | .cardName => "ecom_payment_card_name"
  | .cardNumber => "ecom_payment_card_number"
  | .cardExpMonth => "ecom_payment_card_expdate_month"
  | .cardExpYear => "ecom_payment_card_expdate_year"
  | .cardVerification => "ecom_payment_card_verification"
  | .procurementCard => "pg_procurement_card"
  | .customerAcctCode => "pg_customer_acct_code"
  | .ccSwipeData => "pg_cc_swipe_data"
  | .ccEncSwipeData => "pg_cc_enc_swipe_data"
  | .ccEncDecryptor => "pg_cc_enc_decryptor"
  | .secureData3d => "ecom_3d_secure_data"
  | .secureAuthenticated3d => "ecom_3d_secure_authenticated"
  | .partialAuthAllowed => "pg_partial_auth_allowed_flag"
  | .mailOrPhoneOrder => "pg_mail_or_phone_order"
  | .paymentToken => "pg_payment_token"
  | .paymentMethodId => "pg_payment_method_id"
  | .onetimeToken => "pg_onetime_token"
  | .checkTrn => "ecom_payment_check_trn"
  | .checkAccount => "ecom_payment_check_account"
  | .checkAccountType => "ecom_payment_check_account_type"
  | .checkNumber => "ecom_payment_check_checkno"
  | .entryClassCode => "pg_entry_class_code"
  | .traceNumber => "pg_trace_number"
  | .authorizationCode => "pg_authorization_code"
  | .originalTraceNumber => "pg_original_trace_number"
  | .originalAuthorizationCode => "pg_original_authorization_code"
  | .responseType => "pg_response_type"
  | .responseDescription => "pg_response_description"
  | .responseCode => "pg_response_code"
  | .avsResult => "pg_avs_result"
  | .preauthResult => "pg_preauth_result"
  | .preauthDescription => "pg_preauth_description"
  | .preauthNegReport => "pg_preauth_neg_report"
  | .cvv2Result => "pg_cvv2_result"
  | .secureResult3d => "pg_3d_secure_result"
  | .availableCardBalance => "pg_available_card_balance"
  | .requestedAmount => "pg_requested_amount"
  | .convenienceFee => "pg_convenience_fee"

def label : Field → String
  | .merchantId => "MerchantId"
  | .password => "Password"
  | .transactionType => "TransactionType"
  | .merchantData1 => "MerchantData1"
  | .merchantData2 => "MerchantData2"
  | .merchantData3 => "MerchantData3"
  | .merchantData4 => "MerchantData4"
  | .merchantData5 => "MerchantData5"
  | .merchantData6 => "MerchantData6"
  | .merchantData7 => "MerchantData7"
  | .merchantData8 => "MerchantData8"
  | .merchantData9 => "MerchantData9"
  | .totalAmount => "TotalAmount"
  | .salesTaxAmount => "SalesTaxAmount"
  | .consumerId => "ConsumerId"
  | .consumerOrderId => "ConsumerOrderId"
  | .walletId => "WalletId"
  | .customerToken => "CustomerToken"
  | .clientId => "ClientId"
  | .billToCompany => "BillToCompany"
  | .billToFirstName => "BillToFirstName"
  | .billToLastName => "BillToLastName"
  | .billToStreetLine1 => "BillToStreetLine1"
  | .billToStreetLine2 => "BillToStreetLine2"
  | .billToCity => "BillToCity"
  | .billToState => "BillToState"
  | .billToPostalCode => "BillToPostalCode"
  | .billToCountryCode => "BillToCountryCode"
  | .billToPhone => "BillToPhone"
  | .billToEmail => "BillToEmail"
  | .billToSsn => "BillToSsn"
  | .billToDlNumber => "BillToDlNumber"
  | .billToDlState => "BillToDlState"
  | .billToDateOfBirth => "BillToDateOfBirth"
  | .enteredBy => "EnteredBy"
  | .scheduleQuantity => "ScheduleQuantity"
  | .scheduleFrequency => "ScheduleFrequency"
  | .scheduleRecurringAmount => "ScheduleRecurringAmount"
  | .scheduleStartDate => "ScheduleStartDate"
  | .customerIpAddress => "CustomerIpAddress"
  | .merchantRecurring => "MerchantRecurring"
  | .softwareName => "SoftwareName"
  | .softwareVersion => "SoftwareVersion"
  | .avsMethod => "AvsMethod"
  | .cardType => "CardType"
  | .cardName => "CardName"
  | .cardNumber => "CardNumber"
  | .cardExpMonth => "CardExpMonth"
  | .cardExpYear => "CardExpYear"
  | .cardVerification => "CardVerification"
  | .procurementCard => "ProcurementCard"
  | .customerAcctCode => "CustomerAcctCode"
  | .ccSwipeData => "CcSwipeData"
  | .ccEncSwipeData => "CcEncSwipeData"
  | .ccEncDecryptor => "CcEncDecryptor"
  | .secureData3d => "SecureData3d"
  | .secureAuthenticated3d => "SecureAuthenticated3d"
  | .partialAuthAllowed => "PartialAuthAllowed"
  | .mailOrPhoneOrder => "MailOrPhoneOrder"
  | .paymentToken => "PaymentToken"
  | .paymentMethodId => "PaymentMethodId"
  | .onetimeToken => "OnetimeToken"
  | .checkTrn => "CheckTrn"
  | .checkAccount => "CheckAccount"
  | .checkAccountType => "CheckAccountType"
  | .checkNumber => "CheckNumber"
  | .entryClassCode => "EntryClassCode"
  | .traceNumber => "TraceNumber"
  | .authorizationCode => "AuthorizationCode"
  | .originalTraceNumber => "OriginalTraceNumber"
  | .originalAuthorizationCode => "OriginalAuthorizationCode"
  | .responseType => "ResponseType"
  | .responseDescription => "ResponseDescription"
  | .responseCode => "ResponseCode"
  | .avsResult => "AvsResult"
  | .preauthResult => "PreauthResult"
  | .preauthDescription => "PreauthDescription"
  | .preauthNegReport => "PreauthNegReport"
  | .cvv2Result => "Cvv2Result"
  | .secureResult3d => "SecureResult3d"
  | .availableCardBalance => "AvailableCardBalance"
  | .requestedAmount => "RequestedAmount"
  | .convenienceFee => "ConvenienceFee"

def ofWireName? (name : String) : Option Field :=
  all.find? fun field => field.wireName == name

end Field

end PaymentGateway
