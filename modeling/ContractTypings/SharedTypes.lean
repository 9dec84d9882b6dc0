import ContractTypings.TypeScript.Printer

namespace ContractTypings.SharedTypes

def fileName : String := "types.ts"

def body : List String := [
  "import type BigNumber from \"bignumber.js\";",
  "import type \x7b EventEmitter \x7d from \"events\";",
  "import type \x7b EventLog, PromiEvent, TransactionReceipt \x7d from \"web3-core/types\";",
  "import type \x7b Contract \x7d from \"web3-eth-contract\";",
  "",
  "export type NumberLike = number | string | BigNumber;",
  "",
  "export interface EstimateGasOptions \x7b",
  "  from?: string;",
  "  gas?: number;",
  "  value?: NumberLike;",
  "\x7d",
  "",
  "export interface EventOptions \x7b",
  "  filter?: object;",
  "  fromBlock?: BlockType;",
  "  topics?: string[];",
  "\x7d",
  "",
  "export type Callback<T> = (error: Error, result: T) => void;",
  "",
  "export interface ContractEventLog<T> extends EventLog \x7b",
  "  returnValues: T;",
  "\x7d",
  "",
  "export interface ContractEventEmitter<T> extends EventEmitter \x7b",
  "  on(event: \"connected\", listener: (subscriptionId: string) => void): this;",
  "  on(event: \"data\" | \"changed\", listener: (event: ContractEventLog<T>) => void): this;",
  "  on(event: \"error\", listener: (error: Error) => void): this;",
  "\x7d",
  "",
  "export interface NonPayableTx \x7b",
  "  nonce?: NumberLike;",
  "  chainId?: NumberLike;",
  "  from?: string;",
  "  to?: string;",
  "  data?: string;",
  "  gas?: NumberLike;",
  "  maxPriorityFeePerGas?: NumberLike;",
  "  maxFeePerGas?: NumberLike;",
  "  gasPrice?: NumberLike;",
  "\x7d",
  "",
  "export interface PayableTx extends NonPayableTx \x7b",
  "  value?: NumberLike;",
  "\x7d",
  "",
  "export interface NonPayableTransactionObject<T> \x7b",
  "  arguments: any[];",
  "  call(tx?: NonPayableTx, block?: BlockType): Promise<T>;",
  "  send(tx?: NonPayableTx): PromiEvent<TransactionReceipt>;",
  "  estimateGas(tx?: NonPayableTx): Promise<number>;",
  "  encodeABI(): string;",
  "\x7d",
  "",
  "export interface PayableTransactionObject<T> \x7b",
  "  arguments: any[];",
  "  call(tx?: PayableTx, block?: BlockType): Promise<T>;",
  "  send(tx?: PayableTx): PromiEvent<TransactionReceipt>;",
  "  estimateGas(tx?: PayableTx): Promise<number>;",
  "  encodeABI(): string;",
  "\x7d",
  "",
  "export type BlockType = \"latest\" | \"pending\" | \"genesis\" | \"earliest\" | number | BigNumber;",
  "",
  "export type BaseContract = Omit<Contract, \"clone\" | \"once\">;"]

def source : String :=
  TypeScript.header ++ "\n" ++ String.join (body.map (· ++ "\n"))

end ContractTypings.SharedTypes
